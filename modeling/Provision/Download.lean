import Provision.Command.Retry
import Provision.Size
import Provision.Url

/-!
Downloading a file. The answer goes into a temporary file beside the destination, which takes the
destination's name once it is whole. Failures are tried again with pauses that double.
-/

namespace Provision

abbrev Fetcher (σ : Type) := String → String → Action σ Unit

inductive Response where
  | silence
  /-- The body comes in chunks; it is complete if all that was announced has come. -/
  | answer (status : Nat) (chunks : List Bytes) (complete : Bool)
  deriving DecidableEq, Repr

structure Network (σ : Type) where
  respond : Url → StateM σ Response
  draw : Nat → StateM σ Nat

namespace Download

variable {σ : Type}

/-- The file that a download is written to until it is complete. -/
def tempPath (dest : String) : String := dest ++ ".tmp"

def isSuccess (status : Nat) : Bool := 200 ≤ status && status ≤ 299

def reasons : Table Nat String :=
  [(100, "Continue"), (101, "Switching Protocols"), (102, "Processing"), (200, "OK"),
   (201, "Created"), (202, "Accepted"), (203, "Non Authoritative Information"),
   (204, "No Content"), (205, "Reset Content"), (206, "Partial Content"), (207, "Multi-Status"),
   (208, "Already Reported"), (226, "IM Used"), (300, "Multiple Choices"),
   (301, "Moved Permanently"), (302, "Found"), (303, "See Other"), (304, "Not Modified"),
   (305, "Use Proxy"), (307, "Temporary Redirect"), (308, "Permanent Redirect"),
   (400, "Bad Request"), (401, "Unauthorized"), (402, "Payment Required"), (403, "Forbidden"),
   (404, "Not Found"), (405, "Method Not Allowed"), (406, "Not Acceptable"),
   (407, "Proxy Authentication Required"), (408, "Request Timeout"), (409, "Conflict"),
   (410, "Gone"), (411, "Length Required"), (412, "Precondition Failed"),
   (413, "Payload Too Large"), (414, "URI Too Long"), (415, "Unsupported Media Type"),
   (416, "Range Not Satisfiable"), (417, "Expectation Failed"), (418, "I'm a teapot"),
   (421, "Misdirected Request"), (422, "Unprocessable Entity"), (423, "Locked"),
   (424, "Failed Dependency"), (425, "Too Early"), (426, "Upgrade Required"),
   (428, "Precondition Required"), (429, "Too Many Requests"),
   (431, "Request Header Fields Too Large"), (451, "Unavailable For Legal Reasons"),
   (500, "Internal Server Error"), (501, "Not Implemented"), (502, "Bad Gateway"),
   (503, "Service Unavailable"), (504, "Gateway Timeout"), (505, "HTTP Version Not Supported"),
   (506, "Variant Also Negotiates"), (507, "Insufficient Storage"), (508, "Loop Detected"),
   (510, "Not Extended"), (511, "Network Authentication Required")]

def reason (status : Nat) : String := (reasons.get? status).getD "<unknown status code>"

def doublings (retry : UInt32) : Nat := min retry.toNat 10

def baseDelay (retry : UInt32) : Nat := 1000 <<< doublings retry

def jitter (retry : UInt32) : Nat := baseDelay retry / 4

def delay (retry : UInt32) (drawn : Nat) : Nat :=
  baseDelay retry - jitter retry + drawn % (2 * jitter retry + 1)

def outside {α : Type} (x : StateM σ α) : Action σ α := do
  let w ← get
  let (a, s) := x.run w.outside
  set { w with outside := s }
  return a

def writeChunks (id : FileId) : List Bytes → Action σ Unit
  | [] => return ()
  | c :: r => do
    Action.changeDisk (·.appendData id c)
    writeChunks id r

def once (net : Network σ) (url temp : String) : Action σ Nat := do
  match Url.ofText? url with
  | none => throw (.downloadFailed (.unusableUrl url none))
  | some u =>
    if !u.isFetchable then throw (.downloadFailed (.unusableUrl url (some u.text)))
    match ← outside (net.respond u) with
    | .silence => throw (.downloadFailed (.noAnswer url u.target))
    | .answer status chunks complete =>
      if !isSuccess status then throw (.downloadFailed (.badStatus url status (reason status)))
      let id ← Action.step (.createFile temp) (Action.changeWith (·.openForWriting · temp))
      writeChunks id chunks
      if !complete then throw (.downloadFailed (.brokenBody url))
      return chunks.flatten.length

def attempt (net : Network σ) (policy : RetryPolicy) (url dest : String) :
    Nat → UInt32 → Action σ Unit
  | 0, _ => throw .endlessRetry
  | n + 1, made => do
    let attempts := made + 1
    let temp := tempPath dest
    Action.tell .info "Downloading LLVM archive"
      [("url", url), ("attempt", toString attempts.toNat), ("dest", dest)]
    match ← ExceptT.lift (once net url temp).run with
    | .ok size =>
      Action.step (.rename temp dest) (Action.change (·.moveName · temp dest))
      Action.tell .info "Download complete" [("size", Size.text (.ofNat size))]
    | .error f =>
      let _ ← ExceptT.lift (Action.change (·.unlink · temp))
      if policy.shouldRetry attempts f.chain then
        let pause := delay (attempts - 1) (← outside (net.draw (2 * jitter (attempts - 1))))
        Action.tell .warn "Download failed, retrying"
          [("error", f.message), ("retry_in_ms", toString pause)]
        Action.nap pause
        attempt net policy url dest n attempts
      else throw f

def fetch (net : Network σ) (policy : RetryPolicy) : Fetcher σ := fun url dest => do
  Action.createParents dest
  attempt net policy url dest policy.attempts 0

end Download
end Provision
