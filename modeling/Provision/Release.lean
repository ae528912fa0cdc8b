import Provision.Text.Split

namespace Provision

structure Release where
  baseUrl : String
  suffix : String
  archiveName : String
  deriving DecidableEq, Repr

namespace Release

def dropSlashes (s : List Char) : List Char := s.dropWhile (· = '/')

def dropSlashesEnd (s : List Char) : List Char := (dropSlashes s.reverse).reverse

def lastSegment (s : List Char) : List Char := (s.reverse.takeWhile (· ≠ '/')).reverse

def ofParts (baseUrl suffix : String) : Release :=
  let path := dropSlashes suffix.toList
  { baseUrl := .ofList (dropSlashesEnd baseUrl.toList)
    suffix := .ofList path
    archiveName := .ofList (lastSegment path) }

def url (r : Release) : String := r.baseUrl ++ "/" ++ r.suffix

end Release
end Provision
