/-! # Blank space

Which characters count as blank, and how blank space is taken off the ends of a text.
-/

namespace RowPipeline.Text

/-- The white space of the Unicode standard; the zero-width space and the byte order mark are not in
it. -/
def isBlank (c : Char) : Bool :=
  let n := c.toNat
  (9 ≤ n && n ≤ 13) || n == 0x20 || n == 0x85 || n == 0xa0 || n == 0x1680 ||
    (0x2000 ≤ n && n ≤ 0x200a) || n == 0x2028 || n == 0x2029 || n == 0x202f || n == 0x205f ||
    n == 0x3000

/-- Takes the characters that satisfy `p` off both ends. -/
def stripBoth (p : Char → Bool) (cs : List Char) : List Char :=
  ((cs.dropWhile p).reverse.dropWhile p).reverse

def trim (s : String) : String :=
  String.ofList (stripBoth isBlank s.toList)

def isBlankText (s : String) : Bool :=
  s.toList.all isBlank

/-- Of a text that neither begins nor ends with such a character, nothing but what stands behind it
is taken off. -/
theorem stripBoth_append {p : Char → Bool} {cs tail : List Char}
    (front : ∀ c ∈ cs.head?, p c = false) (back : ∀ c ∈ cs.getLast?, p c = false)
    (surplus : ∀ c ∈ tail, p c = true) : stripBoth p (cs ++ tail) = cs := by
  cases cs with
  | nil =>
      have none : (tail ++ []).dropWhile p = [] := List.dropWhile_append_of_pos surplus
      rw [List.append_nil] at none
      rw [List.nil_append, stripBoth, none]
      rfl
  | cons c cs =>
      have kept : (c :: cs).reverse.dropWhile p = (c :: cs).reverse := by
        rw [← List.head?_reverse] at back
        cases turned : (c :: cs).reverse with
        | nil => rfl
        | cons d ds =>
            rw [turned] at back
            rw [List.dropWhile_cons_of_neg (by simp [back d rfl])]
      rw [stripBoth, List.cons_append, List.dropWhile_cons_of_neg (by simp [front c rfl]),
        ← List.cons_append, List.reverse_append,
        List.dropWhile_append_of_pos (by simpa using surplus), kept, List.reverse_reverse]

theorem stripBoth_eq_self {p : Char → Bool} {cs : List Char} (front : ∀ c ∈ cs.head?, p c = false)
    (back : ∀ c ∈ cs.getLast?, p c = false) : stripBoth p cs = cs := by
  have none : ∀ c ∈ ([] : List Char), p c = true := by simp
  simpa using stripBoth_append front back none

theorem head?_dropWhile {p : Char → Bool} (cs : List Char) :
    ∀ c ∈ (cs.dropWhile p).head?, p c = false := by
  intro c first
  have not := List.head?_dropWhile_not p cs
  rwa [first] at not

theorem stripBoth_append_left {p : Char → Bool} {front : List Char}
    (surplus : ∀ c ∈ front, p c = true) (cs : List Char) :
    stripBoth p (front ++ cs) = stripBoth p cs := by
  rw [stripBoth, List.dropWhile_append_of_pos surplus, stripBoth]

/-- What is left neither begins nor ends with such a character, and nothing else is taken off. -/
theorem exists_stripBoth (p : Char → Bool) (cs : List Char) :
    ∃ front back, cs = front ++ stripBoth p cs ++ back ∧
      (∀ c ∈ front, p c = true) ∧ (∀ c ∈ back, p c = true) ∧
      (∀ c ∈ (stripBoth p cs).head?, p c = false) ∧
      ∀ c ∈ (stripBoth p cs).getLast?, p c = false := by
  have split : stripBoth p cs ++ ((cs.dropWhile p).reverse.takeWhile p).reverse =
      cs.dropWhile p := by
    rw [stripBoth, ← List.reverse_append, List.takeWhile_append_dropWhile, List.reverse_reverse]
  refine ⟨cs.takeWhile p, ((cs.dropWhile p).reverse.takeWhile p).reverse, ?_, ?_, ?_, ?_, ?_⟩
  · rw [List.append_assoc, split, List.takeWhile_append_dropWhile]
  · exact List.all_eq_true.1 List.all_takeWhile
  · intro c member
    exact List.all_eq_true.1 List.all_takeWhile c (List.mem_reverse.1 member)
  · intro c head
    apply head?_dropWhile cs c
    rw [← split, List.head?_append, head]
    rfl
  · rw [stripBoth, List.getLast?_reverse]
    exact head?_dropWhile _

end RowPipeline.Text
