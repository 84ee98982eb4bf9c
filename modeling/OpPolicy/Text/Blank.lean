set_option autoImplicit false

/-!
White space, and texts without the white space at their ends. Blank means the Unicode
`White_Space` property, not only the ASCII blanks.
-/

namespace OpPolicy.Text

def isBlank (c : Char) : Bool :=
  let n := c.toNat
  (0x9 ≤ n && n ≤ 0xD) || n == 0x20 || n == 0x85 || n == 0xA0 || n == 0x1680 ||
    (0x2000 ≤ n && n ≤ 0x200A) || n == 0x2028 || n == 0x2029 || n == 0x202F || n == 0x205F ||
    n == 0x3000

/-- The blanks of ASCII, form feed included and vertical tab left out. -/
def isAsciiBlank (c : Char) : Bool :=
  c == ' ' || c == '\t' || c == '\n' || c == '\x0c' || c == '\r'

def trimStart (s : List Char) : List Char := s.dropWhile isBlank

def trimEnd (s : List Char) : List Char := (s.reverse.dropWhile isBlank).reverse

def trim (s : List Char) : List Char := trimEnd (trimStart s)

theorem trimStart_append {p s : List Char} (h : ∀ c ∈ p, isBlank c) :
    trimStart (p ++ s) = trimStart s := by
  induction p with
  | nil => rfl
  | cons c p ih => simp_all [trimStart]

theorem trimEnd_append {s p : List Char} (h : ∀ c ∈ p, isBlank c) :
    trimEnd (s ++ p) = trimEnd s := by
  have := trimStart_append (p := p.reverse) (s := s.reverse) (by simpa using h)
  simp_all [trimEnd, trimStart]

/-- A text with its ends blank-free. -/
def Trimmed (s : List Char) : Prop :=
  (∀ c ∈ s.head?, isBlank c = false) ∧ ∀ c ∈ s.getLast?, isBlank c = false

theorem trimStart_of_head {s : List Char} (h : ∀ c ∈ s.head?, isBlank c = false) :
    trimStart s = s := by
  cases s <;> simp_all [trimStart]

theorem trim_of_trimmed {s : List Char} (h : Trimmed s) : trim s = s := by
  have e : trimStart s.reverse = s.reverse := trimStart_of_head (by simpa using h.2)
  rw [trim, trimStart_of_head h.1, trimEnd, ← trimStart, e, List.reverse_reverse]

end OpPolicy.Text
