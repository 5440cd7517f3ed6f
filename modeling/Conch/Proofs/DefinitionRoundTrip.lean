import Conch.Proofs.GuardKeywords
import Mathlib
/-! Definitions read back from the lines `functions NAME` writes them as: run where no function is
named `function`, the line stores the same definition again, provided the name needs no quotes, the
body and the description are no operator words and the body is no option. -/
namespace Conch

namespace Words

/-- A character written without quotes is read as itself. -/
theorem isSafe_plain {c : Char} (h : isSafe c = true) :
    isSeparator c = false ∧ c ≠ '\\' ∧ c ≠ '\'' ∧ c ≠ '"' := by
  refine ⟨?_, ?_, ?_, ?_⟩
  · simp only [isSeparator, Bool.or_eq_false_iff, decide_eq_false_iff_not]
    refine ⟨⟨⟨?_, ?_⟩, ?_⟩, ?_⟩ <;> rintro rfl <;> revert h <;> decide
  all_goals rintro rfl; revert h; decide

theorem toNat_of_isSafe {c : Char} (h : isSafe c = true) : 37 ≤ c.toNat ∧ c.toNat ≤ 122 := by
  simp only [isSafe, Char.isAlphanum, Char.isAlpha, Char.isUpper, Char.isLower, Char.isDigit,
    Bool.or_eq_true, Bool.and_eq_true, decide_eq_true_eq, GE.ge, UInt32.le_iff_toNat_le] at h
  have hc : c.toNat = c.val.toNat := rfl
  have hA : ('A' : Char).val.toNat = 65 := rfl
  have hZ : ('Z' : Char).val.toNat = 90 := rfl
  have ha : ('a' : Char).val.toNat = 97 := rfl
  have hz : ('z' : Char).val.toNat = 122 := rfl
  have h0 : ('0' : Char).val.toNat = 48 := rfl
  have h9 : ('9' : Char).val.toNat = 57 := rfl
  rcases h with ((((((((((⟨h1, h2⟩ | ⟨h1, h2⟩) | ⟨h1, h2⟩) | h) | h) | h) | h) | h) | h) | h) | h) |
    h
  any_goals omega
  all_goals subst_vars; decide

theorem isBlank_of_isSafe {c : Char} (h : isSafe c = true) : Text.isBlank c = false := by
  have := toNat_of_isSafe h
  simp only [Text.isBlank, Bool.or_eq_false_iff, Bool.and_eq_false_iff, decide_eq_false_iff_not,
    beq_eq_false_iff_ne, ne_eq]
  omega

namespace Reader

theorem foldl_safe (cs : List Char) (hcs : ∀ c ∈ cs, isSafe c = true) (W : List Char)
    (q : Bool) (D : List String) :
    cs.foldl step ⟨.bare, W, q, D⟩ = ⟨.bare, cs.reverse ++ W, q, D⟩ := by
  induction cs generalizing W with
  | nil => rfl
  | cons c cs ih =>
    obtain ⟨hsep, hbs, hsq, hdq⟩ := isSafe_plain (hcs c List.mem_cons_self)
    rw [List.foldl_cons]
    have hstep : step ⟨.bare, W, q, D⟩ c = ⟨.bare, c :: W, q, D⟩ := by
      simp [step, hsep, hbs, hsq, hdq, push]
    rw [hstep, ih (fun c' hc' => hcs c' (List.mem_cons_of_mem _ hc'))]
    simp

/-- The characters of a word inside single quotes, a single quote written `'"'"'`. -/
def escaped (cs : List Char) : List Char :=
  cs.flatMap fun c => if c = '\'' then ['\'', '"', '\'', '"', '\''] else [c]

theorem foldl_escaped (cs W : List Char) (q : Bool) (D : List String) :
    ∃ q', (escaped cs).foldl step ⟨.single, W, q, D⟩ = ⟨.single, cs.reverse ++ W, q', D⟩ := by
  induction cs generalizing W q with
  | nil => exact ⟨q, rfl⟩
  | cons c cs ih =>
    by_cases hc : c = '\''
    · -- `'"'"'` closes the quotes, reads a quote inside double quotes and opens them again
      subst hc
      obtain ⟨q', h⟩ := ih ('\'' :: W) true
      refine ⟨q', ?_⟩
      simpa [escaped, step, push, isSeparator] using h
    · obtain ⟨q', h⟩ := ih (c :: W) true
      refine ⟨q', ?_⟩
      simpa [escaped, step, push, hc] using h

end Reader

theorem foldl_quote (w : String) (D : List String) :
    ∃ q, (quote w).toList.foldl Reader.step ⟨.between, [], false, D⟩ =
      ⟨.bare, w.toList.reverse, q, D⟩ := by
  unfold quote
  split
  · rename_i hw
    rw [String.isEmpty_iff.1 hw]
    exact ⟨true, rfl⟩
  · split
    · rename_i hne hsafe
      obtain ⟨c, cs, hcs⟩ := List.exists_cons_of_ne_nil
        (fun h => hne (String.isEmpty_iff.2 (String.toList_eq_nil_iff.1 h)))
      rw [hcs] at hsafe ⊢
      have hall : ∀ c' ∈ c :: cs, isSafe c' = true := by simpa using hsafe
      obtain ⟨hsep, hbs, hsq, hdq⟩ := isSafe_plain (hall c List.mem_cons_self)
      have hstep : Reader.step ⟨.between, [], false, D⟩ c = ⟨.bare, [c], false, D⟩ := by
        simp [Reader.step, hsep, hbs, hsq, hdq]
      refine ⟨false, ?_⟩
      rw [List.foldl_cons, hstep,
        Reader.foldl_safe cs (fun c' hc' => hall c' (List.mem_cons_of_mem _ hc'))]
      simp
    · obtain ⟨q, h⟩ := Reader.foldl_escaped w.toList [] false D
      refine ⟨true, ?_⟩
      have hquote : ("'" : String).toList = ['\''] := rfl
      have hopen : Reader.step ⟨.between, [], false, D⟩ '\'' = ⟨.single, [], false, D⟩ := by
        simp [Reader.step, isSeparator]
      simp only [String.toList_append, String.toList_ofList, List.foldl_append, hquote,
        List.foldl_cons, List.foldl_nil]
      change Reader.step (List.foldl Reader.step (Reader.step _ '\'') (Reader.escaped w.toList))
        '\'' = _
      rw [hopen, h]
      simp [Reader.step]

theorem finish_intercalate_quote (w : String) (vs : List String) (D : List String) :
    ((" ".intercalate ((w :: vs).map quote)).toList.foldl Reader.step
      ⟨.between, [], false, D⟩).finish = .ok (D.reverse ++ w :: vs) := by
  induction vs generalizing w D with
  | nil =>
    obtain ⟨q, h⟩ := foldl_quote w D
    simp [h, Reader.finish, Reader.close]
  | cons v vs ih =>
    obtain ⟨q, h⟩ := foldl_quote w D
    have hsep : Reader.step ⟨.bare, w.toList.reverse, q, D⟩ ' ' =
        ⟨.between, [], false, w :: D⟩ := by
      simp [Reader.step, isSeparator, Reader.close]
    rw [List.map_cons, List.map_cons, String.intercalate_cons_cons, String.toList_append,
      String.toList_append, List.foldl_append, List.foldl_append, h]
    change ((" ".intercalate ((v :: vs).map quote)).toList.foldl Reader.step
      (Reader.step ⟨.bare, w.toList.reverse, q, D⟩ ' ')).finish = _
    rw [hsep, ih v (w :: D)]
    simp

/-- Reading words written quoted and joined by spaces gives the words back. -/
theorem read_intercalate_quote (ws : List String) :
    read (" ".intercalate (ws.map quote)) = .ok ws := by
  cases ws with
  | nil => rfl
  | cons w vs =>
    have h := finish_intercalate_quote w vs []
    rw [List.reverse_nil, List.nil_append] at h
    exact h

theorem quote_edges (w : String) : ∃ a b, (quote w).toList.head? = some a ∧
    (quote w).toList.getLast? = some b ∧ Text.isBlank a = false ∧ Text.isBlank b = false := by
  unfold quote
  split
  · exact ⟨'\'', '\'', rfl, rfl, by decide, by decide⟩
  · split
    · rename_i hne hsafe
      have hcs : w.toList ≠ [] :=
        fun h => hne (String.isEmpty_iff.2 (String.toList_eq_nil_iff.1 h))
      obtain ⟨a, ha⟩ := Option.ne_none_iff_exists'.1 (mt List.head?_eq_none_iff.1 hcs)
      obtain ⟨b, hb⟩ := Option.ne_none_iff_exists'.1 (mt List.getLast?_eq_none_iff.1 hcs)
      have hall : ∀ c ∈ w.toList, isSafe c = true := by simpa using hsafe
      exact ⟨a, b, ha, hb, isBlank_of_isSafe (hall a (List.mem_of_mem_head? ha)),
        isBlank_of_isSafe (hall b (List.mem_of_getLast? hb))⟩
    · refine ⟨'\'', '\'', ?_, ?_, by decide, by decide⟩
      · simp
      · have hquote : ("'" : String).toList = ['\''] := rfl
        simp only [String.toList_append, String.toList_ofList, hquote, List.getLast?_concat]

theorem intercalate_quote_edges (w : String) (vs : List String) :
    ∃ a b, (" ".intercalate ((w :: vs).map quote)).toList.head? = some a ∧
      (" ".intercalate ((w :: vs).map quote)).toList.getLast? = some b ∧
      Text.isBlank a = false ∧ Text.isBlank b = false := by
  induction vs generalizing w with
  | nil => simpa using quote_edges w
  | cons v vs ih =>
    obtain ⟨a, -, ha, -, hablank, -⟩ := quote_edges w
    obtain ⟨-, b, -, hb, -, hbblank⟩ := ih v
    rw [List.map_cons, List.map_cons, String.intercalate_cons_cons, String.toList_append,
      String.toList_append, ← List.map_cons]
    refine ⟨a, b, ?_, ?_, hablank, hbblank⟩
    · simp only [List.head?_append, ha, Option.some_or]
    · simp only [List.getLast?_append, hb, Option.some_or]

end Words

namespace Text

theorem dropWhile_blank_of_head {cs : List Char} {a : Char} (h : cs.head? = some a)
    (ha : isBlank a = false) : cs.dropWhile isBlank = cs := by
  cases cs with
  | nil => cases h
  | cons c cs =>
    obtain rfl : c = a := Option.some.inj h
    exact List.dropWhile_cons_of_neg (by simp [ha])

theorem trimChars_of_edges {cs : List Char} {a b : Char} (ha : cs.head? = some a)
    (hb : cs.getLast? = some b) (hablank : isBlank a = false) (hbblank : isBlank b = false) :
    trimChars cs = cs := by
  have hrev : cs.reverse.head? = some b := by rw [List.head?_reverse]; exact hb
  unfold trimChars
  rw [dropWhile_blank_of_head ha hablank, dropWhile_blank_of_head hrev hbblank,
    List.reverse_reverse]

end Text

theorem Words.trim_intercalate_quote (ws : List String) :
    Text.trim (" ".intercalate (ws.map quote)) = " ".intercalate (ws.map quote) := by
  cases ws with
  | nil => rfl
  | cons w vs =>
    obtain ⟨a, b, ha, hb, hablank, hbblank⟩ := intercalate_quote_edges w vs
    rw [Text.trim, Text.trimChars_of_edges ha hb hablank hbblank, String.ofList_toList]

namespace CommandLine

theorem ofWord?_of_quote_eq {v : String} (h : Words.quote v = v) : Connector.ofWord? v = none := by
  unfold Connector.ofWord?
  split <;> first | rfl | (revert h; decide)

theorem group_of_no_operator (j : Option Connector) (n : String) (acc ws : List String)
    (hws : ∀ v ∈ ws, Connector.ofWord? v = none) :
    group j (some (n, acc)) ws = [⟨n, acc.reverse ++ ws, j⟩] := by
  induction ws generalizing acc with
  | nil => simp [group, group.close]
  | cons v ws ih =>
    rw [group, hws v List.mem_cons_self]
    simp only
    rw [ih (v :: acc) (fun u hu => hws u (List.mem_cons_of_mem _ hu))]
    simp

/-- A line of quoted words, the first naming a command and none of the others an operator, is
that one command. -/
theorem parse_intercalate_quote {n : String} (hn : start n = (n, []))
    (hop : Connector.ofWord? n = none) (ws : List String)
    (hws : ∀ v ∈ ws, Connector.ofWord? v = none) :
    parse (" ".intercalate ((n :: ws).map Words.quote)) = [⟨n, ws, none⟩] := by
  unfold parse
  rw [Words.trim_intercalate_quote]
  simp only [Words.readOrSplit, Words.read_intercalate_quote]
  rw [group, hop]
  simp only [hn, List.reverse_nil]
  rw [group_of_no_operator none n [] ws hws]
  rfl

end CommandLine

namespace Options.Scanner

theorem advance_of_plain (s : Scanner) (hs : s.inOrder = false) (ps : List (Nat × String))
    (hps : ∀ p ∈ ps, p.2.startsWith "-" = false ∨ p.2 = "-") :
    s.advance ps = (none, { s with setAside := s.setAside ++ ps, pending := [] }) := by
  induction ps generalizing s with
  | nil => simp [advance]
  | cons p ps ih =>
    obtain ⟨pos, w⟩ := p
    have hw := hps (pos, w) List.mem_cons_self
    have hdash : w ≠ "--" := by
      rintro rfl
      simp at hw
    have hplain : (!w.startsWith "-") = true ∨ w = "-" := by simpa using hw
    have hin : ¬s.inOrder = true := by simp [hs]
    rw [advance, if_neg hdash, if_pos hplain, if_neg hin,
      ih { s with setAside := s.setAside ++ [(pos, w)] } hs
        (fun p hp => hps p (List.mem_cons_of_mem _ hp))]
    simp

/-- A scan with no letters left over and no option among its pending words ends at once, with
those words set aside. -/
theorem run_of_plain (u : OnUnknown) (m : Bool) (s : Scanner) (fuel : Nat)
    (hs : s.inOrder = false) (hc : s.cluster = [])
    (hps : ∀ p ∈ s.pending, p.2.startsWith "-" = false ∨ p.2 = "-") :
    Scanner.run u m s (fuel + 1) =
      ([], { s with setAside := s.setAside ++ s.pending, pending := [] }) := by
  simp only [Scanner.run, next, hc, advance_of_plain s hs _ hps]

theorem positionals_of_zipIdx (s : Scanner) (l : List String) (i : Nat)
    (h : s.setAside = (l.zipIdx i).map fun (w, j) => (j, w)) : s.positionals = l := by
  have hsorted : (s.setAside.map (·.1)).Pairwise (· ≤ ·) := by
    rw [h, List.map_map]
    have hfst : ((fun (p : Nat × String) => p.1) ∘ fun (w, j) => (j, w)) = Prod.snd := by
      funext p
      rfl
    rw [hfst, List.zipIdx_map_snd]
    exact List.pairwise_le_range'
  unfold positionals
  rw [List.mergeSort_of_pairwise (by simpa [List.pairwise_map] using hsorted), h, List.map_map]
  have hsnd : ((fun (p : Nat × String) => p.2) ∘ fun (w, j) => (j, w)) = Prod.fst := by
    funext p
    rfl
  rw [hsnd, List.zipIdx_map_fst]

end Options.Scanner

namespace Builtin.Define

open Options

/-- The arguments of the `function` command a definition is written as: the description after
`-d` when there is one, then the name and the body. -/
def writtenArgs (f : FunctionDef) : List String :=
  (if f.description.isEmpty then [] else ["-d", f.description]) ++ [f.name, f.body]

theorem writeDefinition_eq_intercalate (f : FunctionDef) (hname : Words.quote f.name = f.name) :
    writeDefinition f = " ".intercalate (("function" :: writtenArgs f).map Words.quote) := by
  have hfun : Words.quote "function" = "function" := by decide
  have hd : Words.quote "-d" = "-d" := by decide
  unfold writeDefinition writtenArgs
  split <;> simp [hfun, hd, hname]

theorem init_inOrder (args : List String) :
    (Scanner.init "hd:" functionOptions args).inOrder = false := by
  simp [Scanner.init]

theorem plain_name_body {name body : String} (hname : name.startsWith "-" = false)
    (hbody : body.startsWith "-" = false ∨ body = "-") (i j : Nat) :
    ∀ p ∈ [(i, name), (j, body)], p.2.startsWith "-" = false ∨ p.2 = "-" := by
  intro p hp
  simp only [List.mem_cons, List.not_mem_nil, or_false] at hp
  rcases hp with rfl | rfl
  · exact .inl hname
  · exact hbody

theorem scan_name_body {name body : String} (hname : name.startsWith "-" = false)
    (hbody : body.startsWith "-" = false ∨ body = "-") :
    (scan "hd:" functionOptions [name, body] .halt true).1 = [] ∧
      (scan "hd:" functionOptions [name, body] .halt true).2.positionals = [name, body] := by
  unfold scan
  rw [Scanner.run_of_plain _ _ _ _ (init_inOrder [name, body]) rfl
    (plain_name_body hname hbody 0 1)]
  exact ⟨rfl, Scanner.positionals_of_zipIdx _ [name, body] 0 (List.nil_append _)⟩

theorem scan_description_name_body (desc : String) {name body : String}
    (hname : name.startsWith "-" = false) (hbody : body.startsWith "-" = false ∨ body = "-") :
    (scan "hd:" functionOptions ["-d", desc, name, body] .halt true).1 =
        [⟨.flag, some "d", "-d", 0, some desc⟩] ∧
      (scan "hd:" functionOptions ["-d", desc, name, body] .halt true).2.positionals =
        [name, body] := by
  set s := Scanner.init "hd:" functionOptions ["-d", desc, name, body] with hs
  obtain ⟨s₁, hfirst, hin, hc, hpending, hset⟩ : ∃ s₁, s.next =
      (some ⟨.flag, some "d", "-d", 0, some desc⟩, s₁) ∧ s₁.inOrder = false ∧ s₁.cluster = [] ∧
      s₁.pending = [(2, name), (3, body)] ∧ s₁.setAside = [] :=
    ⟨{ s with pending := [(2, name), (3, body)], clusterWord := "-d", clusterIndex := 0 },
      by simp [hs, Scanner.init, Scanner.next, Scanner.advance, Scanner.nextShort, shortOptions],
      init_inOrder ["-d", desc, name, body], rfl, rfl, rfl⟩
  obtain ⟨k, hk⟩ : ∃ k, s.weight = k + 1 :=
    ⟨s.weight - 1, by simp [hs, Scanner.weight, Scanner.init]; omega⟩
  unfold scan
  rw [← hs]
  dsimp only
  rw [hk, Scanner.run.eq_2, hfirst]
  dsimp only
  rw [Scanner.run_of_plain _ _ s₁ k hin hc (hpending ▸ plain_name_body hname hbody 2 3)]
  refine ⟨rfl, Scanner.positionals_of_zipIdx _ [name, body] 2 ?_⟩
  rw [hset, hpending]
  rfl

/-- What `function` stores after a scan of flags only, without `-h`: the first positional word is
the name, the others joined are the body, and the last `-d` gives the description. -/
theorem decideFunction_of_scan {args : List String} {steps : List Step} {sc : Scanner}
    {name : String} {body : List String}
    (hscan : scan "hd:" functionOptions args .halt true = (steps, sc))
    (hflags : ∀ st ∈ steps, st.kind = .flag) (hhelp : ∀ st ∈ steps, st.option ≠ some "h")
    (hpos : sc.positionals = name :: body) (hname : FunctionDef.Accepted name) (hbody : body ≠ []) :
    decideFunction args = .store ⟨name, " ".intercalate body,
      ((steps.filter (·.option = some "d")).getLast?.map (·.value.getD "")).getD ""⟩ := by
  have hfind : steps.find? (·.kind ≠ .flag) = none := by simpa using hflags
  have hany : steps.any (·.option = some "h") = false := by simpa using hhelp
  have hempty : body.isEmpty = false := by simpa using hbody
  unfold decideFunction
  rw [hscan]
  simp only [hfind, hany, Bool.false_eq_true, ↓reduceIte, hpos, hempty]
  rw [if_neg hname]

/-- `function` decides the arguments a definition is written as back to the definition, when the
name is one it accepts and the body is no option. -/
theorem decideFunction_writtenArgs (f : FunctionDef) (hname : FunctionDef.Accepted f.name)
    (hbody : f.body.startsWith "-" = false ∨ f.body = "-") :
    decideFunction (writtenArgs f) = .store f := by
  have hdash : f.name.startsWith "-" = false := by
    simpa using (not_or.1 hname).2
  unfold writtenArgs
  by_cases hdesc : f.description.isEmpty
  · obtain ⟨hsteps, hpos⟩ := scan_name_body hdash hbody
    have hempty : f.description = "" := String.isEmpty_iff.1 hdesc
    rw [if_pos hdesc, List.nil_append, decideFunction_of_scan (Prod.ext hsteps rfl) (by simp)
      (by simp) hpos hname (List.cons_ne_nil _ _)]
    simp only [List.filter_nil, List.getLast?_nil, Option.map_none, Option.getD_none,
      String.intercalate_singleton]
    rw [← hempty]
  · obtain ⟨hsteps, hpos⟩ := scan_description_name_body f.description hdash hbody
    rw [if_neg hdesc, List.cons_append, List.cons_append, List.nil_append,
      decideFunction_of_scan (Prod.ext hsteps rfl) (by simp) (by simp) hpos hname
        (List.cons_ne_nil _ _)]
    simp

end Builtin.Define

namespace Exec

theorem run_frame_eq {α : Type} {act : Exec α} {w w' R : World} {a : α} (h : Roomy 1 w)
    (hact : act.run.run { w with stack := w.stack + 1 } = (.ok a, w'))
    (hR : { w' with stack := w'.stack - 1 } = R) : (Exec.frame act).run.run w = (.ok a, R) := by
  rw [run_frame_of h hact, hR]

theorem run_launch (t : Target) (name : String) (args : List String) (stdin : Option String)
    (w : World) :
    (Exec.launch t name args stdin).run.run w =
      (.ok (), { w with launches := w.launches.push ⟨t, name, args, stdin, w.shell.flags⟩ }) := rfl

end Exec

namespace Engine

open Exec

variable {d : Deeper}

theorem run_runFunction_store {args : List String} {f : FunctionDef}
    (h : Builtin.Define.decideFunction args = .store f) (w : World) :
    (Builtin.Define.runFunction args).run.run w =
      (.ok 0, { w with shell := w.shell.define f }) := by
  unfold Builtin.Define.runFunction
  rw [h]
  rfl

theorem run_runBuiltin_function_store {args : List String} {f : FunctionDef}
    (h : Builtin.Define.decideFunction args = .store f) (stdin : Option String) {w : World}
    (hroom : Roomy 1 w) :
    (runBuiltin d .function args stdin).run.run w =
      (.ok 0, { w with shell := w.shell.define f }) := by
  unfold runBuiltin
  rw [run_frame_of hroom (run_runFunction_store h _)]
  simp

theorem run_dispatch_function_store {args : List String} {f : FunctionDef}
    (h : Builtin.Define.decideFunction args = .store f) (stdin : Option String) (capture : Bool)
    {w : World} (hnone : w.shell.functions.get? "function" = none) (hroom : Roomy 11 w) :
    (dispatch d "function" args stdin .any capture).run.run w =
      (.ok 0, { w with
        shell := w.shell.define f
        launches := w.launches.push ⟨.builtin, "function", args, stdin, w.shell.flags⟩ }) := by
  have hinspect : w.stack + 1 + 1 + Stack.inspectingBuiltin.length ≤ Stack.limit := by
    unfold Roomy at hroom
    simp only [Stack.inspectingBuiltin, List.length_cons, List.length_nil]
    omega
  have hbuiltin : Builtin.ofName? "function" = some .function := rfl
  unfold dispatch
  apply run_frame_eq (hroom.reach (x := [.frame]) (by decide))
  · rw [run_bind_of_ok (run_shell _)]
    dsimp only
    rw [hnone, hbuiltin]
    dsimp only
    rw [run_bind_of_ok (run_launch _ _ _ _ _)]
    apply run_frame_eq (by unfold Roomy at *; simp only; omega)
    · rw [run_bind_of_ok (run_reach hinspect)]
      exact run_runBuiltin_function_store h stdin (by unfold Roomy at *; simp only; omega)
    · rfl
  · simp

theorem splitPrefix_cons_of_not_keyword {w : String} (hw : Keyword.isCommandPrefix w = false)
    (ws : List String) : CommandLine.splitPrefix (w :: ws) = ([], w :: ws) := by
  simp [CommandLine.splitPrefix, hw]

theorem run_runCommand_function_store {args : List String} {f : FunctionDef}
    (h : Builtin.Define.decideFunction args = .store f) (stdin : Option String) (capture : Bool)
    {w : World} (hnone : w.shell.functions.get? "function" = none) (hroom : Roomy 12 w) :
    (runCommand d "function" args stdin capture).run.run w =
      (.ok 0, { w with
        shell := w.shell.define f
        clock := w.clock.tick
        launches := w.launches.push ⟨.builtin, "function", args, stdin, w.shell.flags⟩ }) := by
  have hsplit := hroom.reach_deeper (x := Stack.splittingKeywords) (by decide)
  unfold runCommand
  apply run_frame_eq (hroom.reach (x := [.frame]) (by decide))
  · rw [run_bind_of_ok (run_reach hsplit), splitPrefix_cons_of_not_keyword (by decide)]
    dsimp only
    rw [run_bind_of_ok (run_shell _)]
    dsimp only
    rw [show Plan.ofKeywords w.shell.lastStatus [] {} = .ok {} from rfl]
    dsimp only
    rw [run_bind_of_ok (run_now _), run_bind_of_ok (run_dispatch_function_store
      (w := { w with stack := w.stack + 1, clock := w.clock.tick }) h stdin capture hnone
      (by unfold Roomy at *; simp only; omega))]
    rfl
  · simp

theorem run_runStages_single {c : Command} (hwhole : VarRef.whole? c.name = none)
    (stdin : Option String) (last : Int) {w w' : World} {code : Int} (hroom : Roomy 7 w)
    (hcmd : (runCommand d c.name (expandArgs w.shell c.name c.args) stdin false).run.run w =
      (.ok code, w')) :
    ∃ f : Flow, (runStages d [c] stdin last).run.run w =
      (.ok f, { w' with shell := w'.shell.setStatus code }) ∧ f.status = code := by
  simp only [runStages]
  rw [run_bind_of_ok (run_shell w),
    run_bind_of_ok (run_reach (hroom.reach (Stack.Expansion.excursion_length_le _))), hwhole]
  simp only [List.isEmpty_nil, ↓reduceIte]
  rw [run_bind_of_ok hcmd, run_bind_of_ok (run_setStatus _ _), run_bind_of_ok (run_flags _)]
  cases (w'.shell.setStatus code).flags.halted
  · exact ⟨.next code, rfl, rfl⟩
  · exact ⟨.unwind code, rfl, rfl⟩

theorem run_runSequence_single {c : Command} (hjoint : c.joint = none)
    (hwhole : VarRef.whole? c.name = none) {w w' : World} {code : Int} (hroom : Roomy 8 w)
    (hcmd : (runCommand d c.name (expandArgs w.shell c.name c.args) none false).run.run
      { w with stack := w.stack + 1 } = (.ok code, w')) :
    (runSequence d [c]).run.run w =
      (.ok code, { w' with shell := w'.shell.setStatus code, stack := w'.stack - 1 }) := by
  unfold runSequence
  apply run_frame_eq (hroom.reach (x := [.frame]) (by decide))
  · obtain ⟨f, hf, hfs⟩ := run_runStages_single (d := d) hwhole none 0
      (w := { w with stack := w.stack + 1 }) (by unfold Roomy at *; simp only; omega) hcmd
    simp only [List.isEmpty_cons, Bool.false_eq_true, ↓reduceIte]
    rw [show pipelines [c] = [[c]] from rfl]
    simp only [runPipelines, hjoint, reduceCtorEq, false_and, or_self, ↓reduceIte]
    rw [run_bind_of_ok hf]
    -- the status the pipeline ends with is the one it recorded, whether it goes on or unwinds
    cases f <;> (simp only [Flow.status] at hfs; subst hfs; rfl)
  · rfl

theorem run_runLine_single {line : String} {c : Command}
    (hparse : CommandLine.parse line = [c]) (hjoint : c.joint = none)
    (hwhole : VarRef.whole? c.name = none) {w w' : World} {code : Int} (hroom : Roomy 9 w)
    (hcmd : (runCommand d c.name (expandArgs w.shell c.name c.args) none false).run.run
      { w with stack := w.stack + 1 + 1 } = (.ok code, w')) :
    (runLine d line).run.run w =
      (.ok code, { w' with shell := w'.shell.setStatus code, stack := w'.stack - 1 - 1 }) := by
  have hreading := hroom.reach_deeper (x := Stack.readingLine) (by decide)
  unfold runLine
  apply run_frame_eq (hroom.reach (x := [.frame]) (by decide))
  · rw [readingOf_of_parse_ne_nil (hparse ▸ List.cons_ne_nil _ _),
      run_bind_of_ok (run_reach hreading), hparse]
    exact run_runSequence_single (w := { w with stack := w.stack + 1 }) hjoint hwhole
      (by unfold Roomy at *; simp only; omega) hcmd
  · rfl

/-- A line that reads as one `function` command, run where no function is named `function`,
starts the builtin with the line's words, stores what it decides, and records the status `0`. -/
theorem run_function_line {line : String} {args : List String} {f : FunctionDef}
    (hparse : CommandLine.parse line = [⟨"function", args, none⟩])
    (h : Builtin.Define.decideFunction args = .store f) {w : World}
    (hnone : w.shell.functions.get? "function" = none) (hroom : Roomy 14 w) :
    (executeLine line).run.run w =
      (.ok 0, { w with
        shell := (w.shell.define f).setStatus 0
        clock := w.clock.tick
        launches := w.launches.push ⟨.builtin, "function", args, none, w.shell.flags⟩ }) := by
  have hcmd := run_runCommand_function_store (d := run nestingBudget)
    (w := { w with stack := w.stack + 1 + 1 }) h none false hnone (by unfold Roomy at *; simp only; omega)
  have hname : VarRef.whole? "function" = none := by decide
  unfold executeLine
  rw [run_runLine_single hparse rfl hname (by unfold Roomy at *; omega) hcmd]
  simp

/-- A definition that `function` stored, with a name written bare, a body and a description that
are no operator words and a body that is no option, is written as a line that, run where no
function is named `function`, returns 0 and stores that same definition under its name. -/
theorem printed_definitions_read_back {args : List String} {f : FunctionDef}
    (hstore : Builtin.Define.decideFunction args = .store f) (hname : Words.quote f.name = f.name)
    (hbody : Connector.ofWord? f.body = none ∧ (f.body.startsWith "-" = false ∨ f.body = "-"))
    (hdesc : Connector.ofWord? f.description = none) {w : World}
    (hnone : w.shell.functions.get? "function" = none) (hroom : w.stack + 14 ≤ Stack.limit) :
    (executeLine (Builtin.Define.writeDefinition f)).run.run w =
      (.ok 0, { w with
        shell := (w.shell.define f).setStatus 0
        clock := w.clock.tick
        launches := w.launches.push
          ⟨.builtin, "function", Builtin.Define.writtenArgs f, none, w.shell.flags⟩ }) ∧
    ((w.shell.define f).setStatus 0).functions.get? f.name = some f := by
  have hop : ∀ v ∈ Builtin.Define.writtenArgs f, Connector.ofWord? v = none := by
    intro v hv
    unfold Builtin.Define.writtenArgs at hv
    rcases List.mem_append.1 hv with hv | hv
    · split at hv
      · simp at hv
      · simp only [List.mem_cons, List.not_mem_nil, or_false] at hv
        rcases hv with rfl | rfl
        · rfl
        · exact hdesc
    · simp only [List.mem_cons, List.not_mem_nil, or_false] at hv
      rcases hv with rfl | rfl
      · exact CommandLine.ofWord?_of_quote_eq hname
      · exact hbody.1
  have hparse : CommandLine.parse (Builtin.Define.writeDefinition f) =
      [⟨"function", Builtin.Define.writtenArgs f, none⟩] := by
    rw [Builtin.Define.writeDefinition_eq_intercalate f hname]
    exact CommandLine.parse_intercalate_quote (by decide) rfl _ hop
  have hread := Builtin.Define.decideFunction_writtenArgs f
    (Builtin.Define.accepted_of_store hstore) hbody.2
  refine ⟨run_function_line hparse hread hnone hroom, ?_⟩
  simp [Shell.setStatus, Shell.define]

theorem greeting_definition_reads_back :
    Builtin.Define.decideFunction ["-d", "says hi", "greet", "echo hi"] =
        .store ⟨"greet", "echo hi", "says hi"⟩ ∧
      ((executeLine (Builtin.Define.writeDefinition ⟨"greet", "echo hi", "says hi"⟩)).run.run
        { shell := Shell.fresh false }).1 = .ok 0 ∧
      ((executeLine (Builtin.Define.writeDefinition ⟨"greet", "echo hi", "says hi"⟩)).run.run
        { shell := Shell.fresh false }).2.shell.functions.get? "greet" =
        some ⟨"greet", "echo hi", "says hi"⟩ := by
  have hargs : Builtin.Define.writtenArgs ⟨"greet", "echo hi", "says hi"⟩ =
      ["-d", "says hi", "greet", "echo hi"] := by decide
  have hstore : Builtin.Define.decideFunction ["-d", "says hi", "greet", "echo hi"] =
      .store ⟨"greet", "echo hi", "says hi"⟩ :=
    hargs ▸ Builtin.Define.decideFunction_writtenArgs _
      (by unfold FunctionDef.Accepted; decide +kernel) (.inl (by simp))
  obtain ⟨hrun, hget⟩ := printed_definitions_read_back hstore (by decide) ⟨rfl, .inl (by simp)⟩
    rfl (w := { shell := Shell.fresh false }) rfl (by decide)
  refine ⟨hstore, ?_, ?_⟩
  · rw [hrun]
  · rw [hrun]
    exact hget

end Engine

end Conch
