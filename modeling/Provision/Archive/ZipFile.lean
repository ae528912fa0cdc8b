import Provision.Text.Split
import Provision.Text.Utf8

namespace Provision

inductive ZipMethod where
  | stored
  | deflated
  | foreign
  /-- The marker of an encrypted entry, without the header that it needs. -/
  | sealed
  deriving DecidableEq, Repr

inductive ZipSystem where
  | unix
  | dos
  deriving DecidableEq, Repr

structure ZipEntry where
  name : String
  data : Bytes
  mode : Nat
  attributes : Nat
  system : ZipSystem
  method : ZipMethod
  encrypted : Bool
  sound : Bool
  deriving DecidableEq, Repr

namespace ZipEntry

def isSeparator (c : Char) : Bool := c = '/' || c = '\\'

def isDirectory (e : ZipEntry) : Bool := e.name.toList.getLast?.any isSeparator

def opens (e : ZipEntry) : Bool := e.method ≠ .foreign && !e.encrypted

def unixMode (e : ZipEntry) : Option Nat :=
  if e.mode = 0 ∧ e.attributes = 0 then none
  else if e.mode ≠ 0 then some e.mode
  else match e.system with
    | .unix => some 0
    | .dos =>
      let base := if e.attributes &&& 0x10 ≠ 0 then 0o775 else 0o664
      some (if e.attributes &&& 1 ≠ 0 then base &&& 0o555 else base)

def pieces : List Char → List (List Char)
  | [] => [[]]
  | c :: r =>
    if isSeparator c then [] :: pieces r
    else match pieces r with
      | [] => [[c]]
      | w :: ws => (c :: w) :: ws

def dropVolume (s : List Char) : List Char :=
  match s with
  | a :: ':' :: r => if a.isAlpha then r else s
  | a :: b :: r =>
    if isSeparator a && isSeparator b then
      match pieces r with
      | server :: share :: _ =>
        if server = [] || share = [] then s
        else r.drop (server.length + 1 + share.length)
      | _ => s
    else s
  | s => s

def settle : List String → List String → Option (List String)
  | acc, [] => some acc.reverse
  | acc, s :: r =>
    if s = "" ∨ s = "." then settle acc r
    else if s = ".." then
      match acc with
      | [] => none
      | _ :: acc => settle acc r
    else settle (s :: acc) r

/-- The name as segments below a destination; none where it would leave it. -/
def enclosed? (e : ZipEntry) : Option (List String) :=
  if e.name.toList.contains '\x00' then none
  else settle [] ((pieces (dropVolume e.name.toList)).map .ofList)

end ZipEntry

structure ZipFile where
  entries : List ZipEntry
  deriving DecidableEq, Repr

namespace ZipFile

def place (e : ZipEntry) : List ZipEntry → List ZipEntry
  | [] => [e]
  | f :: r => if f.name = e.name then e :: r else f :: place e r

/-- The entries by name: the first position, the last content. -/
def listing (z : ZipFile) : List ZipEntry := z.entries.foldl (fun l e => place e l) []

def isReadable (z : ZipFile) : Bool := z.entries.all (·.method ≠ .sealed)

end ZipFile
end Provision
