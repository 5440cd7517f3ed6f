import Conch.Proofs.LineGroups
import Conch.Exec.Engine
/-! What an assignment word `@{key}=value` assigns: the key read back is the one the line was read
with, but a line feed that a later word or a reference brings in before the end makes `set` refuse
the line. -/
namespace Conch

namespace Text

theorem trimChars_append_blank (cs : List Char) {c : Char} (hc : isBlank c = true) :
    trimChars (cs ++ [c]) = trimChars cs := by
  unfold trimChars
  rw [List.dropWhile_append]
  split
  next hnil =>
    rw [List.isEmpty_iff] at hnil
    rw [hnil, List.dropWhile_cons_of_pos hc]
    rfl
  next =>
    rw [List.reverse_append, List.reverse_singleton, List.singleton_append,
      List.dropWhile_cons_of_pos hc]

end Text

namespace VarRef

def assignmentWord (k raw : String) : String :=
  String.ofList ('@' :: '{' :: k.toList ++ ['}', '=']) ++ raw

theorem toList_assignmentWord (k raw : String) :
    (assignmentWord k raw).toList = '@' :: '{' :: k.toList ++ '}' :: '=' :: raw.toList := by
  simp [assignmentWord]

theorem piecesFrom_name_run {k : List Char} (hb : '}' ∉ k) (acc rest : List Char) :
    piecesFrom (.name acc) (k ++ rest) = piecesFrom (.name (k.reverse ++ acc)) rest := by
  induction k generalizing acc with
  | nil => rfl
  | cons c k ih =>
    have hc : c ≠ '}' := fun h => hb (h ▸ List.mem_cons_self)
    rw [List.cons_append, piecesFrom, if_neg hc, ih (fun h => hb (List.mem_cons_of_mem _ h))]
    simp

theorem pieces_assignmentWord {k : String} (hk : k ≠ "") (hb : '}' ∉ k.toList) (raw : String) :
    pieces (assignmentWord k raw).toList = .ref k.toList :: .plain '=' :: pieces raw.toList := by
  have hne : k.toList.reverse ≠ [] := by
    rw [Ne, List.reverse_eq_nil_iff, String.toList_eq_nil_iff]
    exact hk
  rw [toList_assignmentWord, pieces]
  simp only [List.cons_append, piecesFrom, ↓reduceIte]
  rw [piecesFrom_name_run hb, List.append_nil]
  simp [piecesFrom, hne, pieces]

/-- Expansion keeps the reference that an `=` follows and expands the value text on its own. -/
theorem expand_assignmentWord (lookup : String → Option String) {k : String} (hk : k ≠ "")
    (hb : '}' ∉ k.toList) (raw : String) :
    expand lookup (assignmentWord k raw) = assignmentWord k (expand lookup raw) := by
  unfold expand
  rw [pieces_assignmentWord hk hb, ← String.toList_inj, toList_assignmentWord]
  simp [render]

theorem piecesFrom_append_plain {c : Char} (h₁ : c ≠ '@') (h₂ : c ≠ '{') (h₃ : c ≠ '}')
    (st : Cut) (cs : List Char) :
    piecesFrom st (cs ++ [c]) = piecesFrom st cs ++ [.plain c] := by
  fun_induction piecesFrom st cs <;> simp_all [piecesFrom]

theorem render_append_plain (value : List Char → Bool → List Char) {c : Char} (hc : c ≠ '=') :
    ∀ ps : List Piece, render value (ps ++ [.plain c]) = render value ps ++ [c]
  | [] => by simp [render]
  | .plain d :: ps => by simp [render, render_append_plain value hc ps]
  | .ref n :: [] => by simp [render, hc]
  | .ref n :: p :: ps => by
    have ih := render_append_plain value hc (p :: ps)
    simp only [List.cons_append] at ih ⊢
    cases p with
    | plain d => by_cases hd : d = '=' <;> simp_all [render]
    | ref m => simp_all [render]

theorem expand_append_newline (lookup : String → Option String) (s : String) :
    expand lookup (s ++ "\n") = expand lookup s ++ "\n" := by
  unfold expand
  rw [← String.toList_inj]
  simp only [String.toList_append, pieces, String.toList_ofList]
  rw [show "\n".toList = ['\n'] from rfl,
    piecesFrom_append_plain (by decide) (by decide) (by decide), render_append_plain _ (by decide)]

theorem isSome_assignedValue_iff (cs : List Char) :
    (assignedValue cs).isSome = true ↔ '\n' ∉ cs.dropLast := by
  constructor
  · intro h
    obtain ⟨v, hv⟩ := Option.isSome_iff_exists.1 h
    obtain ⟨hline, rfl | rfl⟩ := assignedValue_eq_some_iff.1 hv
    · exact fun hm => hline (List.dropLast_subset _ hm)
    · rwa [List.dropLast_concat]
  · intro h
    rcases List.eq_nil_or_concat cs with rfl | ⟨l, b, rfl⟩
    · rfl
    · rw [List.concat_eq_append] at h ⊢
      rw [List.dropLast_concat] at h
      by_cases hb : b = '\n'
      · rw [assignedValue_eq_some_iff.2 ⟨h, .inr (by rw [hb])⟩]
        rfl
      · have hline : '\n' ∉ l ++ [b] := by
          simpa [eq_comm] using And.intro h hb
        rw [assignedValue_eq_some_iff.2 ⟨hline, .inl rfl⟩]
        rfl

theorem trimChars_of_assignedValue {cs v : List Char} (h : assignedValue cs = some v) :
    Text.trimChars v = Text.trimChars cs := by
  obtain ⟨-, rfl | rfl⟩ := assignedValue_eq_some_iff.1 h
  · rfl
  · exact (Text.trimChars_append_blank v (by decide)).symm

end VarRef

namespace Builtin

/-- The text `set` reads after `@{key}=`: the value text and the words after it, each expanded,
joined by spaces. -/
def readValue (lookup : String → Option String) (raw : String) (ts : List String) : String :=
  " ".intercalate (VarRef.expand lookup raw :: ts.map (VarRef.expand lookup))

theorem intercalate_expand_assignmentWord (lookup : String → Option String) {k : String}
    (hk : k ≠ "") (hb : '}' ∉ k.toList) (raw : String) (ts : List String) :
    " ".intercalate ((VarRef.assignmentWord k raw :: ts).map (VarRef.expand lookup)) =
      VarRef.assignmentWord k (readValue lookup raw ts) := by
  rw [List.map_cons, VarRef.expand_assignmentWord lookup hk hb, VarRef.assignmentWord,
    String.intercalate_cons_append]
  rfl

/-- What `set` decides once the words are expanded: misuse when the joined text after `@{key}=`
holds a line feed before its end, a refusal when the trimmed key is read-only, else the trimmed key
and value. -/
theorem assignment_of_assignmentWord (lookup : String → Option String) {k raw v : String}
    (ts : List String) (hmatch : VarRef.AssignmentMatch (VarRef.assignmentWord k raw) k v) :
    assignment ((VarRef.assignmentWord k raw :: ts).map (VarRef.expand lookup)) =
      if '\n' ∈ (readValue lookup raw ts).toList.dropLast then .error "Usage: set @{name}=value\n"
      else if Text.trim k ∈ readOnly then
        .error ("set: Tried to change the read-only variable '" ++ Text.trim k ++ "'\n")
      else .ok (Text.trim k, unquote (Text.trim (readValue lookup raw ts))) := by
  obtain ⟨-, -, hk, hb, he, -, -⟩ := hmatch
  have hread := VarRef.assignment?_of_key
    (VarRef.toList_assignmentWord k (readValue lookup raw ts)) hk hb he
  unfold assignment
  rw [if_neg (by simp), intercalate_expand_assignmentWord lookup hk hb, hread]
  by_cases hnl : '\n' ∈ (readValue lookup raw ts).toList.dropLast
  · have hnone : VarRef.assignedValue (readValue lookup raw ts).toList = none := by
      rw [← Option.not_isSome_iff_eq_none, VarRef.isSome_assignedValue_iff, not_not]
      exact hnl
    rw [hnone, if_pos hnl]
    rfl
  · obtain ⟨u, hu⟩ := Option.isSome_iff_exists.1 ((VarRef.isSome_assignedValue_iff _).2 hnl)
    have htrim : Text.trim (String.ofList u) = Text.trim (readValue lookup raw ts) := by
      unfold Text.trim
      rw [String.toList_ofList, VarRef.trimChars_of_assignedValue hu]
    rw [hu, if_neg hnl, Option.map_some]
    dsimp only
    rw [htrim]

/-- Where the joined text holds a line feed only at its end, it trims as the value part of the
word, joined with the words after it, does: a line feed ending the word can only end the text. -/
theorem trim_readValue_of_match (lookup : String → Option String) {k raw v : String}
    (ts : List String) (hmatch : VarRef.AssignmentMatch (VarRef.assignmentWord k raw) k v)
    (hnl : '\n' ∉ (readValue lookup raw ts).toList.dropLast) :
    Text.trim (readValue lookup raw ts) = Text.trim (readValue lookup v ts) := by
  obtain ⟨raw', hw, -, -, -, -, hraw⟩ := hmatch
  have hraw' : raw' = raw.toList := by
    rw [VarRef.toList_assignmentWord] at hw
    simpa using hw.symm
  subst hraw'
  rcases hraw with hraw | hraw
  · rw [String.toList_inj.1 hraw]
  · have hv : raw = v ++ "\n" := by
      rw [← String.toList_inj, hraw, String.toList_append]
      rfl
    subst hv
    cases ts with
    | nil =>
      unfold readValue Text.trim
      rw [List.map_nil, String.intercalate_singleton, String.intercalate_singleton,
        VarRef.expand_append_newline, String.toList_append]
      exact congrArg String.ofList (Text.trimChars_append_blank _ (by decide))
    | cons t ts =>
      -- a line feed ending the word would stand before the space to the next word
      refine absurd ?_ hnl
      unfold readValue
      rw [List.map_cons, String.intercalate_cons_cons, VarRef.expand_append_newline]
      simp only [String.toList_append, List.append_assoc]
      rw [List.dropLast_append_of_ne_nil (by simp)]
      simp

theorem run_setVariable_ok {args : List String} {k v : String}
    (h : assignment args = .ok (k, v)) (w : World) :
    (setVariable args).run.run w = (.ok 0, { w with shell := w.shell.assign k v }) := by
  unfold setVariable
  rw [h]
  rfl

theorem run_setVariable_error {args : List String} {msg : String}
    (h : assignment args = .error msg) (w : World) :
    (setVariable args).run.run w = (.ok 1, { w with err := w.err ++ msg }) := by
  unfold setVariable
  rw [h]
  rfl

/-- `set` on an expanded assignment word `@{k}=…` and the words after it. With no line feed before
the end of the joined text, a read-only key is refused with status 1 and any other key is given the
joined value, trimmed and unquoted, with status 0; otherwise `set` writes its usage, assigns nothing
and returns 1. -/
theorem assignment_word_assigns (w : World) (k raw v : String) (ts : List String)
    (hmatch : VarRef.AssignmentMatch (VarRef.assignmentWord k raw) k v) :
    ('\n' ∉ (readValue w.shell.lookup raw ts).toList.dropLast →
      (Text.trim k ∈ readOnly →
        (setVariable (Engine.expandArgs w.shell "set" (VarRef.assignmentWord k raw :: ts))).run.run
            w =
          (.ok 1, { w with
            err := w.err ++ ("set: Tried to change the read-only variable '" ++ Text.trim k ++
              "'\n") })) ∧
      (Text.trim k ∉ readOnly →
        (setVariable (Engine.expandArgs w.shell "set" (VarRef.assignmentWord k raw :: ts))).run.run
            w =
          (.ok 0, { w with
            shell := w.shell.assign (Text.trim k)
              (unquote (Text.trim (readValue w.shell.lookup v ts))) }))) ∧
    ('\n' ∈ (readValue w.shell.lookup raw ts).toList.dropLast →
      (setVariable (Engine.expandArgs w.shell "set" (VarRef.assignmentWord k raw :: ts))).run.run w =
        (.ok 1, { w with err := w.err ++ "Usage: set @{name}=value\n" })) := by
  have hargs : Engine.expandArgs w.shell "set" (VarRef.assignmentWord k raw :: ts) =
      (VarRef.assignmentWord k raw :: ts).map (VarRef.expand w.shell.lookup) := by
    simp [Engine.expandArgs]
  have hdecide := assignment_of_assignmentWord w.shell.lookup ts hmatch
  rw [hargs]
  refine ⟨fun hnl => ⟨fun hro => ?_, fun hro => ?_⟩, fun hnl => ?_⟩
  · rw [if_neg hnl, if_pos hro] at hdecide
    exact run_setVariable_error hdecide w
  · rw [if_neg hnl, if_neg hro, trim_readValue_of_match w.shell.lookup ts hmatch hnl] at hdecide
    exact run_setVariable_ok hdecide w
  · rw [if_pos hnl] at hdecide
    exact run_setVariable_error hdecide w

example : assignment ((VarRef.assignmentWord "x" "\"a" :: ["b\""]).map
    (VarRef.expand (Shell.fresh false).lookup)) = .ok ("x", "a b") := by decide

theorem multiline_value_is_refused :
    VarRef.AssignmentMatch (VarRef.assignmentWord "x" "a") "x" "a" ∧
      '\n' ∈ (readValue (Shell.fresh false).lookup "a" ["b\nc"]).toList.dropLast ∧
      (setVariable (Engine.expandArgs (Shell.fresh false) "set"
          [VarRef.assignmentWord "x" "a", "b\nc"])).run.run { shell := Shell.fresh false } =
        (.ok 1, { shell := Shell.fresh false, err := "Usage: set @{name}=value\n" }) := by
  have hmatch : VarRef.AssignmentMatch (VarRef.assignmentWord "x" "a") "x" "a" :=
    VarRef.assignment?_eq_some_iff.1 (by decide)
  have hnl : '\n' ∈ (readValue (Shell.fresh false).lookup "a" ["b\nc"]).toList.dropLast := by
    decide
  refine ⟨hmatch, hnl, ?_⟩
  rw [(assignment_word_assigns { shell := Shell.fresh false } "x" "a" "a" ["b\nc"] hmatch).2 hnl]
  rfl

end Builtin

end Conch
