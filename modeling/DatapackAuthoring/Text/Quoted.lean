import DatapackAuthoring.Text.Printable

namespace DatapackAuthoring.Text

def apostrophe : Char := '\x27'
def doubleQuote : Char := '\x22'
def backslash : Char := '\x5c'

def quoteMark (text : List Char) : Char :=
  if apostrophe ∈ text ∧ doubleQuote ∉ text then doubleQuote else apostrophe

def hexadecimal (width n : Nat) : List Char :=
  let digits := Nat.toDigits 16 n
  List.replicate (width - digits.length) '0' ++ digits

/-- Line feed, return and tab have letters; the rest is numbered in two, four or eight digits. -/
def escaped (mark c : Char) : List Char :=
  if c = mark ∨ c = backslash then [backslash, c]
  else if c = '\n' then [backslash, 'n']
  else if c = '\r' then [backslash, 'r']
  else if c = '\t' then [backslash, 't']
  else if isPrintable c then [c]
  else if c.toNat < 0x100 then backslash :: 'x' :: hexadecimal 2 c.toNat
  else if c.toNat < 0x10000 then backslash :: 'u' :: hexadecimal 4 c.toNat
  else backslash :: 'U' :: hexadecimal 8 c.toNat

def quoteChars (text : List Char) : List Char :=
  let mark := quoteMark text
  mark :: text.flatMap (escaped mark) ++ [mark]

def quote (text : String) : String := String.ofList (quoteChars text.toList)

example : quote "plain" = "'plain'" ∧ quote "it's" = "\"it's\"" ∧
    quote "\x00\n" = "'\\x00\\n'" ∧ quote "\u200b" = "'\\u200b'" := by
  decide +kernel

end DatapackAuthoring.Text
