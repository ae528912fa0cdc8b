import Provision.Text.Split

namespace Provision

structure Url where
  scheme : String
  authority : String
  path : String
  fragment : Option String
  deriving DecidableEq, Repr

namespace Url

/-- The schemes whose URLs always name a host, with the number that need not be written. -/
def standardPort? : String → Option Nat
  | "http" | "ws" => some 80
  | "https" | "wss" => some 443
  | "ftp" => some 21
  | _ => none

def isSchemeChar (c : Char) : Bool := c.isAlphanum || c = '+' || c = '-' || c = '.'

def scheme? (s : List Char) : Option (String × List Char) :=
  match Text.splitOnce? ':' s with
  | some (c :: r, rest) =>
    if c.isAlpha && r.all isSchemeChar then some ((String.ofList (c :: r)).toLower, rest) else none
  | _ => none

def isSlash (c : Char) : Bool := c = '/' || c = '\\'

def endsAuthority (c : Char) : Bool := isSlash c || c = '?' || c = '#'

def isHostChar (c : Char) : Bool := c.toNat > 0x20 && !" #%/:<>?@[\\]^|\x7f".toList.contains c

def isAddressChar (c : Char) : Bool := c.isDigit || c = ':' || c = '.' || ('a' ≤ c && c ≤ 'f')

def portNumber? (standard : Option Nat) (s : List Char) : Option String :=
  match s with
  | [] => some ""
  | ':' :: ds =>
    if !ds.all Char.isDigit then none
    else if ds.isEmpty then some ""
    else match (String.ofList ds).toNat? with
      | some n => if 65535 < n then none else some (if standard = some n then "" else ":" ++ toString n)
      | none => none
  | _ => none

def authority? (standard : Option Nat) (s : List Char) : Option String :=
  let s := (s.reverse.takeWhile (· ≠ '@')).reverse.map Char.toLower
  match s with
  | '[' :: r =>
    match Text.splitOnce? ']' r with
    | some (a, rest) =>
      if a.contains ':' && a.all isAddressChar then
        (portNumber? standard rest).map fun p => "[" ++ String.ofList a ++ "]" ++ p
      else none
    | none => none
  | s =>
    let host := s.takeWhile (· ≠ ':')
    if host.isEmpty || !host.all isHostChar then none
    else (portNumber? standard (s.drop host.length)).map fun p => String.ofList host ++ p

def settle : List (List Char) → List (List Char) → List (List Char)
  | acc, [] => acc.reverse
  | acc, [s] =>
    if s = ['.'] then ([] :: acc).reverse
    else if s = ['.', '.'] then ([] :: acc.tail).reverse
    else (s :: acc).reverse
  | acc, s :: r =>
    if s = ['.'] then settle acc r
    else if s = ['.', '.'] then settle acc.tail r
    else settle (s :: acc) r

def hexDigit (n : Nat) : Char := if n < 10 then .ofNat (48 + n) else .ofNat (55 + n)

def encodeChar (kept : Char → Bool) (c : Char) : List Char :=
  if 0x20 < c.toNat && c.toNat < 0x7F && kept c then [c]
  else c.toString.toUTF8.data.toList.flatMap fun b =>
    ['%', hexDigit (b.toNat / 16), hexDigit (b.toNat % 16)]

def encode (refused : String) (s : List Char) : List Char :=
  s.flatMap (encodeChar fun c => !refused.toList.contains c)

def refusedInQuery : String := "\"#<>'"

def refusedInPath : String := "\"#<>?\x60\x7b\x7d^"

def pathText (s : List Char) : String :=
  let path := s.takeWhile (· ≠ '?')
  let query := s.drop path.length
  let segments := Text.splitChars '/' (path.map fun c => if c = '\\' then '/' else c)
  let segments := if path.head?.any isSlash then segments.drop 1 else segments
  String.ofList <| '/' :: (['/'].intercalate (settle [] (segments.map (encode refusedInPath)))) ++
    match query with
    | [] => []
    | _ :: q => '?' :: encode refusedInQuery q

def isTrimmed (c : Char) : Bool := c.toNat ≤ 0x20

def ofText? (s : String) : Option Url := do
  let cs := s.toList.dropWhile isTrimmed
  let cs := (cs.reverse.dropWhile isTrimmed).reverse
  let cs := cs.filter fun c => c ≠ '\t' && c ≠ '\n' && c ≠ '\r'
  let (scheme, rest) ← scheme? cs
  let body := rest.takeWhile (· ≠ '#')
  let fragment := match rest.drop body.length with
    | [] => none
    | _ :: f => some (String.ofList f)
  match standardPort? scheme with
  | some standard =>
    let body := body.dropWhile isSlash
    let a := body.takeWhile (!endsAuthority ·)
    let authority ← authority? (some standard) a
    return ⟨scheme, authority, pathText (body.drop a.length), fragment⟩
  | none => return ⟨scheme, "", .ofList body, fragment⟩

def target (u : Url) : String :=
  u.scheme ++ ":" ++ (if u.authority = "" then "" else "//" ++ u.authority) ++ u.path

def text (u : Url) : String :=
  u.target ++ match u.fragment with
    | none => ""
    | some f => "#" ++ f

/-- A URL that a download can ask for. -/
def isFetchable (u : Url) : Bool := u.scheme = "http" || u.scheme = "https"

end Url
end Provision
