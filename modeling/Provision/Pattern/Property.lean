import Provision.Pattern.CharSet

namespace Provision.Pattern.Property

open Text.Category

def letter : List Text.Span :=
  uppercaseLetter ++ lowercaseLetter ++ titlecaseLetter ++ modifierLetter ++ otherLetter

def mark : List Text.Span := nonspacingMark ++ spacingMark ++ enclosingMark

def number : List Text.Span := decimalNumber ++ letterNumber ++ otherNumber

def punctuation : List Text.Span :=
  connectorPunctuation ++ dashPunctuation ++ openPunctuation ++ closePunctuation ++
  initialPunctuation ++ finalPunctuation ++ otherPunctuation

def symbol : List Text.Span := mathSymbol ++ currencySymbol ++ modifierSymbol ++ otherSymbol

def separator : List Text.Span := spaceSeparator ++ lineSeparator ++ paragraphSeparator

def assigned : List Text.Span :=
  letter ++ mark ++ number ++ punctuation ++ symbol ++ separator ++ control ++ format ++ privateUse

def top : Nat := 0x10FFFF

def unassigned : CharSet := CharSet.complement top (.ofSpans assigned)

def category? : String → Option CharSet
  | "l" | "letter" => some (.ofSpans letter)
  | "lu" | "uppercaseletter" => some (.ofSpans uppercaseLetter)
  | "ll" | "lowercaseletter" => some (.ofSpans lowercaseLetter)
  | "lt" | "titlecaseletter" => some (.ofSpans titlecaseLetter)
  | "lc" | "casedletter" => some (.ofSpans (uppercaseLetter ++ lowercaseLetter ++ titlecaseLetter))
  | "lm" | "modifierletter" => some (.ofSpans modifierLetter)
  | "lo" | "otherletter" => some (.ofSpans otherLetter)
  | "m" | "mark" | "combiningmark" => some (.ofSpans mark)
  | "mn" | "nonspacingmark" => some (.ofSpans nonspacingMark)
  | "mc" | "spacingmark" => some (.ofSpans spacingMark)
  | "me" | "enclosingmark" => some (.ofSpans enclosingMark)
  | "n" | "number" => some (.ofSpans number)
  | "nd" | "decimalnumber" | "digit" => some (.ofSpans decimalNumber)
  | "nl" | "letternumber" => some (.ofSpans letterNumber)
  | "no" | "othernumber" => some (.ofSpans otherNumber)
  | "p" | "punctuation" | "punct" => some (.ofSpans punctuation)
  | "pc" | "connectorpunctuation" => some (.ofSpans connectorPunctuation)
  | "pd" | "dashpunctuation" => some (.ofSpans dashPunctuation)
  | "ps" | "openpunctuation" => some (.ofSpans openPunctuation)
  | "pe" | "closepunctuation" => some (.ofSpans closePunctuation)
  | "pi" | "initialpunctuation" => some (.ofSpans initialPunctuation)
  | "pf" | "finalpunctuation" => some (.ofSpans finalPunctuation)
  | "po" | "otherpunctuation" => some (.ofSpans otherPunctuation)
  | "s" | "symbol" => some (.ofSpans symbol)
  | "sm" | "mathsymbol" => some (.ofSpans mathSymbol)
  | "sc" | "currencysymbol" => some (.ofSpans currencySymbol)
  | "sk" | "modifiersymbol" => some (.ofSpans modifierSymbol)
  | "so" | "othersymbol" => some (.ofSpans otherSymbol)
  | "z" | "separator" => some (.ofSpans separator)
  | "zs" | "spaceseparator" => some (.ofSpans spaceSeparator)
  | "zl" | "lineseparator" => some (.ofSpans lineSeparator)
  | "zp" | "paragraphseparator" => some (.ofSpans paragraphSeparator)
  | "c" | "other" => some (CharSet.union unassigned (.ofSpans (control ++ format ++ privateUse)))
  | "cc" | "control" | "cntrl" => some (.ofSpans control)
  | "cf" | "format" => some (.ofSpans format)
  | "co" | "privateuse" => some (.ofSpans privateUse)
  | "cn" | "unassigned" => some unassigned
  | "any" => some [(0, top)]
  | "assigned" => some (.ofSpans assigned)
  | "ascii" => some [(0, 0x7F)]
  | _ => none

def script? : String → Option CharSet
  | "latin" | "latn" => some (.ofSpans Text.Script.latin)
  | "greek" | "grek" => some (.ofSpans Text.Script.greek)
  | "cyrillic" | "cyrl" => some (.ofSpans Text.Script.cyrillic)
  | "armenian" | "armn" => some (.ofSpans Text.Script.armenian)
  | "hebrew" | "hebr" => some (.ofSpans Text.Script.hebrew)
  | "arabic" | "arab" => some (.ofSpans Text.Script.arabic)
  | "devanagari" | "deva" => some (.ofSpans Text.Script.devanagari)
  | "thai" => some (.ofSpans Text.Script.thai)
  | "georgian" | "geor" => some (.ofSpans Text.Script.georgian)
  | "hangul" | "hang" => some (.ofSpans Text.Script.hangul)
  | "hiragana" | "hira" => some (.ofSpans Text.Script.hiragana)
  | "katakana" | "kana" => some (.ofSpans Text.Script.katakana)
  | "han" | "hani" => some (.ofSpans Text.Script.han)
  | "common" | "zyyy" => some (.ofSpans Text.Script.common)
  | _ => none

def binary? : String → Option CharSet
  | "alphabetic" | "alpha" => some (.ofSpans (letter ++ letterNumber ++ otherAlphabetic))
  | "lowercase" | "lower" => some (.ofSpans (lowercaseLetter ++ otherLowercase))
  | "uppercase" | "upper" => some (.ofSpans (uppercaseLetter ++ otherUppercase))
  | "whitespace" | "wspace" | "space" => some .space
  | "asciihexdigit" | "ahex" => CharSet.ofAsciiName? "xdigit"
  | _ => none

def normal (s : String) : String :=
  let cs := (s.toList.filter fun c => !(c = ' ' || c = '_' || c = '-')).map Char.toLower
  match cs with
  | 'i' :: 's' :: r => if r = ['c'] || r = [] then .ofList cs else .ofList r
  | cs => .ofList cs

def lookup? (name : String) (value : Option String) : Option CharSet :=
  match value with
  | none =>
    let n := normal name
    match binary? n, category? n, script? n with
    | some s, _, _ => some s
    | none, some s, _ => some s
    | none, none, s => s
  | some v =>
    match normal name with
    | "gc" | "generalcategory" => category? (normal v)
    | "sc" | "script" | "scx" | "scriptextensions" => script? (normal v)
    | _ => none

end Provision.Pattern.Property
