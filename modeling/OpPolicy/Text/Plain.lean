set_option autoImplicit false

/-!
Text for devices that obey no control sequences. Escape sequences are left out, and so are control
characters that are not white space. White space inside an unfinished sequence is text, except in
strings. After it a text has left the sequence for good, whereas in a stream the sequence goes on
with the next character that is no text, unless a character beyond ASCII comes first.
-/

namespace OpPolicy.Text

/-- What has been read of a control sequence. -/
inductive Sequence where
  | none
  | escape
  | intermediate
  | control
  /-- The parameters of a device string, which may start with any of `<=>?`. -/
  | device (started : Bool)
  | deviceIntermediate
  /-- A string that goes on to the next escape character or terminator. -/
  | string
  /-- A string that a bell ends, and no terminator. -/
  | title
  deriving DecidableEq, Repr

/-- The control characters that are white space. -/
def isLayout (c : Char) : Bool := c == '\t' || c == '\n' || c == '\x0c' || c == '\r'

/-- Whether one of the bytes that continue a character is the terminator of strings. -/
def hidesTerminator (c : Char) : Bool :=
  let n := c.toNat
  let terminator := 0x9C % 64
  (0x80 ≤ n && n % 64 == terminator) || (0x800 ≤ n && n / 64 % 64 == terminator) ||
    (0x10000 ≤ n && n / 4096 % 64 == terminator)

/-- Where a character leaves the sequence, and whether the character itself is text. White space
that is text leaves it as it is. -/
def Sequence.next (q : Sequence) (c : Char) : Sequence × Bool :=
  if c = '\x18' ∨ c = '\x1a' then (none, false)
  else if c = '\x1b' then (escape, false)
  else
    match q with
    | none => (none, (' ' ≤ c || isLayout c) && c != '\x7f')
    | escape =>
      if isLayout c then (escape, true)
      else if c < ' ' ∨ '\x7f' ≤ c then (escape, false)
      else if c < '0' then (intermediate, false)
      else if c = '[' then (control, false)
      else if c = ']' then (title, false)
      else if c = 'P' then (device false, false)
      else if c = 'X' ∨ c = '^' ∨ c = '_' then (string, false)
      else (none, false)
    | intermediate =>
      if isLayout c then (intermediate, true)
      else if '0' ≤ c ∧ c < '\x7f' then (none, false) else (intermediate, false)
    | control =>
      if isLayout c then (control, true)
      else if '@' ≤ c ∧ c < '\x7f' then (none, false) else (control, false)
    | device started =>
      if c < ' ' ∨ '\x7f' ≤ c then (device started, false)
      else if c < '0' then (deviceIntermediate, false)
      else if c < (if started then '<' else '@') then (device true, false)
      else (string, false)
    | deviceIntermediate =>
      if '0' ≤ c ∧ c < '\x7f' then (string, false) else (deviceIntermediate, false)
    | string => (if hidesTerminator c then none else string, false)
    | title => (if c = '\x07' then none else title, false)

/-- The reading of a text, or of a stream, which takes up sequences again. -/
structure PlainReader where
  sequence : Sequence := .none
  /-- Text goes on although a sequence is unfinished. -/
  interrupted : Bool := false

namespace PlainReader

def next (resumes : Bool) (r : PlainReader) (c : Char) : PlainReader × Bool :=
  if r.interrupted ∧ (Sequence.none.next c).2 then
    (if c < '\x80' then r else {}, true)
  else
    let (q, shown) := r.sequence.next c
    if shown ∧ ¬resumes then ({}, true) else (⟨q, shown⟩, shown)

def read (resumes : Bool) (r : PlainReader) : List Char → List Char
  | [] => []
  | c :: s =>
    let (r, shown) := r.next resumes c
    if shown then c :: read resumes r s else read resumes r s

end PlainReader

def plain (s : String) : String := String.ofList (PlainReader.read false {} s.toList)

/-- A piece of a stream that starts and ends with a complete sequence. -/
def plainStream (s : String) : String := String.ofList (PlainReader.read true {} s.toList)

end OpPolicy.Text
