import Conch.Proofs.AssignmentWords
import Conch.Exec.Engine
import Mathlib.Data.List.Forall2
/-! Expansion as a substitution by the reference pattern `@\{([^}]+)\}`: leftmost matches that never
overlap, each replaced once, and what a replacement writes never read again
(`expand_substitutes_once`). -/
namespace Conch

namespace VarRef

/-- The reference pattern `@\{([^}]+)\}` matches at the start of `cs` with the name `k`, leaving
`rest`; the name ends at the first `}`. -/
def RefMatch (cs k rest : List Char) : Prop :=
  cs = '@' :: '{' :: k ++ '}' :: rest ∧ k ≠ [] ∧ '}' ∉ k

/-- What a substitution by the reference pattern writes for a text, `repl k rest` being written for
a match of name `k` that `rest` follows; a match is taken wherever one starts, and the scan goes on
in `rest`. -/
inductive Substitutes (repl : List Char → List Char → List Char) : List Char → List Char → Prop
  | nil : Substitutes repl [] []
  | ref {cs k rest out : List Char} : RefMatch cs k rest → Substitutes repl rest out →
      Substitutes repl cs (repl k rest ++ out)
  | plain {c : Char} {cs out : List Char} : (∀ k rest, ¬RefMatch (c :: cs) k rest) →
      Substitutes repl cs out → Substitutes repl (c :: cs) (c :: out)

def written (k : List Char) : List Char := '@' :: '{' :: k ++ ['}']

/-- What expansion writes for a reference to `k` that the text `rest` follows: the reference as
written when an `=` follows it or `lookup` has no value for `k`, and the value otherwise. -/
def expansion (lookup : String → Option String) (k rest : List Char) : List Char :=
  if rest.head? = some '=' then written k
  else (lookup (String.ofList k)).elim (written k) String.toList

theorem takeWhile_name {k : List Char} (hb : '}' ∉ k) (rest : List Char) :
    (k ++ '}' :: rest).takeWhile (· ≠ '}') = k := by
  have hk : ∀ c ∈ k, decide (c ≠ '}') = true := fun c hc => by
    simpa using fun h : c = '}' => hb (h ▸ hc)
  rw [List.takeWhile_append_of_pos hk]
  simp

theorem RefMatch.unique {cs k k' rest rest' : List Char} (h : RefMatch cs k rest)
    (h' : RefMatch cs k' rest') : k = k' ∧ rest = rest' := by
  obtain ⟨hcs, -, hb⟩ := h
  obtain ⟨hcs', -, hb'⟩ := h'
  have heq : k ++ '}' :: rest = k' ++ '}' :: rest' := by simpa [hcs] using hcs'
  have hk : k = k' := by
    rw [← takeWhile_name hb rest, ← takeWhile_name hb' rest', heq]
  subst hk
  exact ⟨rfl, by simpa using heq⟩

theorem pieces_of_refMatch {cs k rest : List Char} (h : RefMatch cs k rest) :
    pieces cs = .ref k :: pieces rest := by
  obtain ⟨rfl, hne, hb⟩ := h
  have hrev : k.reverse ≠ [] := by simpa using hne
  simp only [pieces, List.cons_append, piecesFrom, ↓reduceIte]
  rw [piecesFrom_name_run hb, List.append_nil]
  simp [piecesFrom, hrev]

theorem pieces_at (cs : List Char) : pieces ('@' :: cs) = piecesFrom .sawAt cs := by
  simp [pieces, piecesFrom]

theorem piecesFrom_sawAt_of_ne_brace {d : Char} (hd : d ≠ '{') (ds : List Char) :
    piecesFrom .sawAt (d :: ds) = .plain '@' :: pieces (d :: ds) := by
  by_cases hat : d = '@'
  · subst hat
    simp [pieces, piecesFrom]
  · simp [pieces, piecesFrom, hd, hat]

theorem piecesFrom_name_unclosed {ds : List Char} (hb : '}' ∉ ds) :
    piecesFrom (.name []) ds = .plain '@' :: .plain '{' :: ds.map .plain := by
  have hrun := piecesFrom_name_run hb [] []
  simp only [List.append_nil] at hrun
  simp [hrun, piecesFrom]

theorem pieces_of_no_close {cs : List Char} (hb : '}' ∉ cs) : pieces cs = cs.map .plain := by
  induction cs with
  | nil => rfl
  | cons c cs ih =>
    have ih := ih fun h => hb (List.mem_cons_of_mem _ h)
    by_cases hat : c = '@'
    · subst hat
      rcases cs with _ | ⟨d, ds⟩
      · rfl
      · by_cases hbrace : d = '{'
        · subst hbrace
          have hds : '}' ∉ ds := fun h => hb (by simp [h])
          simp [pieces, piecesFrom, piecesFrom_name_unclosed hds]
        · rw [pieces_at, piecesFrom_sawAt_of_ne_brace hbrace, ih]
          rfl
    · simp [pieces, piecesFrom, hat, ← ih]

theorem pieces_cons_of_not_refMatch {c : Char} {cs : List Char}
    (h : ∀ k rest, ¬RefMatch (c :: cs) k rest) : pieces (c :: cs) = .plain c :: pieces cs := by
  by_cases hat : c = '@'
  · subst hat
    rcases cs with _ | ⟨d, ds⟩
    · rfl
    · by_cases hbrace : d = '{'
      · subst hbrace
        by_cases hclose : '}' ∈ ds
        · -- a `}` comes, so the name before the first one is empty: `@{}` is plain text
          obtain ⟨k, rest, hds, hb⟩ := List.eq_append_cons_of_mem hclose
          have hk : k = [] := by
            by_contra hne
            exact h k rest ⟨by simp [hds], hne, hb⟩
          subst hk hds
          simp [pieces, piecesFrom]
        · have hplain : piecesFrom .text ds = ds.map .plain := pieces_of_no_close hclose
          simp [pieces, piecesFrom, piecesFrom_name_unclosed hclose, hplain]
      · rw [pieces_at, piecesFrom_sawAt_of_ne_brace hbrace]
  · simp [pieces, piecesFrom, hat]

theorem render_ref_pieces (value : List Char → Bool → List Char) (k rest : List Char) :
    render value (.ref k :: pieces rest) =
      value k (decide (rest.head? = some '=')) ++ render value (pieces rest) := by
  rcases rest with _ | ⟨c, cs⟩
  · rfl
  · by_cases hm : ∃ k' rest', RefMatch (c :: cs) k' rest'
    · obtain ⟨k', rest', hk'⟩ := hm
      have hc : c = '@' := by simpa using congrArg List.head? hk'.1
      rw [pieces_of_refMatch hk', hc]
      simp [render]
    · rw [pieces_cons_of_not_refMatch (fun k' rest' h => hm ⟨k', rest', h⟩)]
      by_cases hc : c = '='
      · subst hc
        simp [render]
      · simp [render, hc]

/-- The pieces of a text, rendered, are its substitution, each replacement told whether an `=`
follows the match. -/
theorem substitutes_render {repl : List Char → List Char → List Char}
    (value : List Char → Bool → List Char)
    (hrepl : ∀ k rest, repl k rest = value k (decide (rest.head? = some '=')))
    (cs : List Char) : Substitutes repl cs (render value (pieces cs)) := by
  -- on the length of the text: after a match the scan goes on in a shorter one
  induction hn : cs.length using Nat.strong_induction_on generalizing cs with
  | _ n ih =>
    by_cases hm : ∃ k rest, RefMatch cs k rest
    · obtain ⟨k, rest, h⟩ := hm
      have hlt : rest.length < n := by
        simp only [← hn, h.1, List.cons_append, List.length_cons, List.length_append]
        omega
      rw [pieces_of_refMatch h, render_ref_pieces, ← hrepl]
      exact .ref h (ih _ hlt rest rfl)
    · rcases cs with _ | ⟨c, cs⟩
      · exact .nil
      · have hno : ∀ k rest, ¬RefMatch (c :: cs) k rest := fun k rest h => hm ⟨k, rest, h⟩
        have hlt : cs.length < n := by
          simp only [← hn, List.length_cons]
          omega
        rw [pieces_cons_of_not_refMatch hno, render]
        exact .plain hno (ih _ hlt cs rfl)

theorem not_refMatch_nil (k rest : List Char) : ¬RefMatch [] k rest := fun h => by
  simp [RefMatch] at h

/-- A text has one substitution. -/
theorem Substitutes.unique {repl : List Char → List Char → List Char} {cs out out' : List Char}
    (h : Substitutes repl cs out) (h' : Substitutes repl cs out') : out = out' := by
  induction h generalizing out' with
  | nil =>
    cases h' with
    | nil => rfl
    | ref hm _ => exact absurd hm (not_refMatch_nil _ _)
  | ref hm _ ih =>
    cases h' with
    | nil => exact absurd hm (not_refMatch_nil _ _)
    | ref hm' hrest' =>
      obtain ⟨rfl, rfl⟩ := hm.unique hm'
      rw [ih hrest']
    | plain hno _ => exact absurd hm (hno _ _)
  | plain hno _ ih =>
    cases h' with
    | ref hm' _ => exact absurd hm' (hno _ _)
    | plain _ hrest' => rw [ih hrest']

theorem Substitutes.congr {repl repl' : List Char → List Char → List Char} {cs out : List Char}
    (h : Substitutes repl cs out)
    (hagree : ∀ d k rest, d <:+ cs → RefMatch d k rest → repl k rest = repl' k rest) :
    Substitutes repl' cs out := by
  induction h with
  | nil => exact .nil
  | ref hm _ ih =>
    rw [hagree _ _ _ (List.suffix_refl _) hm]
    refine .ref hm (ih fun d k rest hd hm' => hagree d k rest ?_ hm')
    rw [hm.1]
    exact hd.trans ((List.suffix_cons _ _).trans (List.suffix_append _ _))
  | plain hno _ ih =>
    exact .plain hno (ih fun d k rest hd hm => hagree d k rest (hd.trans (List.suffix_cons _ _)) hm)

theorem expand_eq_render (lookup : String → Option String) (t : String) :
    expand lookup t = String.ofList (render (fun k eq =>
      if eq then written k else (lookup (String.ofList k)).elim (written k) String.toList)
      (pieces t.toList)) := by
  unfold expand
  dsimp only
  congr 2
  funext k eq
  cases lookup (String.ofList k) <;> rfl

theorem substitutes_expand (lookup : String → Option String) (t : String) :
    Substitutes (expansion lookup) t.toList (expand lookup t).toList := by
  rw [expand_eq_render, String.toList_ofList]
  refine substitutes_render _ (fun k rest => ?_) t.toList
  by_cases h : rest.head? = some '=' <;> simp [expansion, h]

/-- Expansion looks up only the names written in the text: what a value brings in is never read
again. -/
theorem expand_reads_written_names {lookup lookup' : String → Option String} {t : String}
    (hagree : ∀ k, k ≠ [] → '}' ∉ k → written k <:+: t.toList →
      lookup (String.ofList k) = lookup' (String.ofList k)) :
    expand lookup t = expand lookup' t := by
  have h : Substitutes (expansion lookup') t.toList (expand lookup t).toList :=
    (substitutes_expand lookup t).congr fun d k rest hd hm => by
      have hw : written k <:+: t.toList := by
        refine List.IsInfix.trans ⟨[], rest, ?_⟩ hd.isInfix
        simp [written, hm.1]
      unfold expansion
      rw [hagree k hm.2.1 hm.2.2 hw]
  exact String.toList_inj.1 (h.unique (substitutes_expand lookup' t))

end VarRef

namespace Engine

open VarRef

/-- A command's arguments reach it expanded, each on its own, unless the command is `get` or
`function`, which receive them as written. -/
theorem expandArgs_substitutes (s : Shell) (name : String) (args : List String) :
    (name = "get" ∨ name = "function" → expandArgs s name args = args) ∧
    (¬(name = "get" ∨ name = "function") →
      List.Forall₂ (fun a b => Substitutes (expansion s.lookup) a.toList b.toList) args
        (expandArgs s name args)) := by
  refine ⟨fun h => if_pos h, fun h => ?_⟩
  rw [expandArgs, if_neg h, List.forall₂_map_right_iff, List.forall₂_same]
  exact fun a _ => substitutes_expand s.lookup a

end Engine

namespace VarRef

/-- Expansion is the one substitution of a text by the reference pattern, a reference replaced by
its value unless an `=` follows it or its name has no value; only names written in the text are
looked up, and every command but `get` and `function` receives its arguments so expanded. -/
theorem expand_substitutes_once :
    (∀ (lookup : String → Option String) (t : String) (out : List Char),
      Substitutes (expansion lookup) t.toList out ↔ (expand lookup t).toList = out) ∧
    (∀ (lookup lookup' : String → Option String) (t : String),
      (∀ k, k ≠ [] → '}' ∉ k → written k <:+: t.toList →
        lookup (String.ofList k) = lookup' (String.ofList k)) →
      expand lookup t = expand lookup' t) ∧
    (∀ (s : Shell) (name : String) (args : List String),
      (name = "get" ∨ name = "function" → Engine.expandArgs s name args = args) ∧
      (¬(name = "get" ∨ name = "function") →
        List.Forall₂ (fun a b => Substitutes (expansion s.lookup) a.toList b.toList) args
          (Engine.expandArgs s name args))) := by
  refine ⟨fun lookup t out => ⟨fun h => ?_, fun h => h ▸ substitutes_expand lookup t⟩,
    fun _ _ _ => expand_reads_written_names, Engine.expandArgs_substitutes⟩
  exact (substitutes_expand lookup t).unique h

end VarRef

end Conch
