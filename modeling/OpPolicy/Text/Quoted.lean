import OpPolicy.Text.GeneralCategory

set_option autoImplicit false

/-!
Texts between quotes. For the device's shell, a quoted word stands between single quotes; a single
quote inside it closes the word, is given between double quotes, and opens the word again. Logs show
paths between double quotes, with escapes for quotes and for what does not show.
-/

namespace OpPolicy.Text

def quoteChars (s : List Char) : List Char :=
  '\x27' :: s.flatMap (fun c =>
    if c = '\x27' then ['\x27', '\x22', '\x27', '\x22', '\x27'] else [c]) ++ ['\x27']

def quote (s : String) : String := String.ofList (quoteChars s.toList)

@[simp] theorem toList_quote (s : String) : (quote s).toList = quoteChars s.toList :=
  String.toList_ofList

/-- A path between double quotes, as logs show it. -/
def display (s : String) : String :=
  String.ofList ('\x22' :: s.toList.flatMap shown ++ ['\x22'])
where
  shown (c : Char) : List Char :=
    if c = '\x22' ∨ c = '\x27' ∨ c = '\\' then ['\\', c]
    else if c = '\n' then ['\\', 'n']
    else if c = '\r' then ['\\', 'r']
    else if c = '\t' then ['\\', 't']
    else if c = '\x00' then ['\\', '0']
    else if isVisible c then [c]
    else "\\u\x7b".toList ++ Nat.toDigits 16 c.toNat ++ ['\x7d']

end OpPolicy.Text
