/-!
Blank characters and cutting them off a text. The class is Unicode's White_Space property, so it
holds more than core's `Char.isWhitespace` and leaves out zero-width characters.
-/
namespace KeyCustody.Text

def blankRanges : List (Nat × Nat) :=
  [(0x09, 0x0d), (0x20, 0x20), (0x85, 0x85), (0xa0, 0xa0), (0x1680, 0x1680), (0x2000, 0x200a),
   (0x2028, 0x2029), (0x202f, 0x202f), (0x205f, 0x205f), (0x3000, 0x3000)]

def isBlank (c : Char) : Bool :=
  blankRanges.any fun (first, last) => first ≤ c.toNat && c.toNat ≤ last

def trimStart (s : List Char) : List Char :=
  s.dropWhile isBlank

def trimEnd (s : List Char) : List Char :=
  (s.reverse.dropWhile isBlank).reverse

def trim (s : List Char) : List Char :=
  trimEnd (trimStart s)

def trimString (s : String) : String :=
  String.ofList (trim s.toList)

theorem trimStart_append_of_blank {blanks : List Char} (h : ∀ c ∈ blanks, isBlank c = true)
    (s : List Char) : trimStart (blanks ++ s) = trimStart s := by
  induction blanks with
  | nil => rfl
  | cons c rest ih =>
    have first : isBlank c = true := h c (by simp)
    simp only [trimStart, List.cons_append, List.dropWhile_cons, first, if_true]
    exact ih fun d member => h d (by simp [member])

theorem trimEnd_append_of_blank {blanks : List Char} (h : ∀ c ∈ blanks, isBlank c = true)
    (s : List Char) : trimEnd (s ++ blanks) = trimEnd s := by
  have reversed : ∀ c ∈ blanks.reverse, isBlank c = true :=
    fun c member => h c (by simpa using member)
  have step := trimStart_append_of_blank reversed s.reverse
  simp only [trimStart] at step
  simp [trimEnd, step]

end KeyCustody.Text
