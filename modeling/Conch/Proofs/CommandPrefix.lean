import Conch.CommandLine
/-! Taking the keywords off a command: `splitPrefix` takes off the longest run of leading keywords.
-/
namespace Conch.CommandLine

theorem splitPrefix_append (words : List String) :
    (splitPrefix words).1 ++ (splitPrefix words).2 = words :=
  List.takeWhile_append_dropWhile

theorem keyword_of_mem_splitPrefix {words : List String} {w : String}
    (h : w ∈ (splitPrefix words).1) : w ∈ Keyword.leading ∨ w ∈ Keyword.skipping := by
  have hw : Keyword.isCommandPrefix w = true := List.all_eq_true.1 List.all_takeWhile w h
  simpa [Keyword.isCommandPrefix] using hw

theorem not_keyword_of_head_splitPrefix {words : List String} {n : String}
    (h : (splitPrefix words).2.head? = some n) : n ∉ Keyword.leading ∧ n ∉ Keyword.skipping := by
  have hn := List.head?_dropWhile_not Keyword.isCommandPrefix words
  simp only [splitPrefix] at h
  rw [h] at hn
  simpa [Keyword.isCommandPrefix] using hn

/-- Every run of keywords at the front of a command lies within the keywords taken off. -/
theorem prefix_splitPrefix {words front : List String} (h : front <+: words)
    (hk : ∀ w ∈ front, w ∈ Keyword.leading ∨ w ∈ Keyword.skipping) :
    front <+: (splitPrefix words).1 := by
  obtain ⟨rest, rfl⟩ := h
  have hp : ∀ w ∈ front, Keyword.isCommandPrefix w = true := fun w hw => by
    simpa [Keyword.isCommandPrefix] using hk w hw
  rw [splitPrefix, List.takeWhile_append_of_pos hp]
  exact List.prefix_append _ _

/-- A command's words are its leading keywords and the rest, which starts with a word that is no
keyword: the keywords taken off are the longest run of them. -/
theorem splitPrefix_longest (name : String) (args : List String) :
    (splitPrefix (name :: args)).1 ++ (splitPrefix (name :: args)).2 = name :: args ∧
    (∀ w ∈ (splitPrefix (name :: args)).1, w ∈ Keyword.leading ∨ w ∈ Keyword.skipping) ∧
    (∀ n ∈ (splitPrefix (name :: args)).2.head?, n ∉ Keyword.leading ∧ n ∉ Keyword.skipping) ∧
    (∀ front, front <+: name :: args →
      (∀ w ∈ front, w ∈ Keyword.leading ∨ w ∈ Keyword.skipping) →
      front <+: (splitPrefix (name :: args)).1) :=
  ⟨splitPrefix_append _, fun _ h => keyword_of_mem_splitPrefix h,
    fun _ h => not_keyword_of_head_splitPrefix (Option.mem_def.1 h),
    fun _ h hk => prefix_splitPrefix h hk⟩

end Conch.CommandLine
