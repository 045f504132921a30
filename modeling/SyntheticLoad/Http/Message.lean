import SyntheticLoad.Http.Network

/-!
# Messages

A request and its answer as they go over a connection that serves them alone. A
message has a head, which is a first line and a line for each header, then an empty
line, and then the body. The body of an answer is as long as a header says, or comes
in chunks that say how long they are, or goes on to the end of the connection. A body
that ends before that breaks off.
-/

namespace SyntheticLoad.Http

open Text

/-- The end of a line. -/
def lineEnd : String := "\r\n"

/-- The headers of a request without a length that says nothing. -/
def Request.meaningful (r : Request) : List (String × String) :=
  r.headers.filter fun (name, value) => name != contentLength || (lengthOf? value).isSome

/-- The headers that say where a request goes, how long it is, and that the connection
    serves no other, unless the request has headers of those names itself. -/
def Request.framing (r : Request) : List (String × String) :=
  let host := match r.url.host with
    | none => ""
    | some h => Url.hostText h r.url.port
  let size := match r.method with
    | .get => []
    | .post => [(contentLength, numeral r.body.utf8ByteSize)]
  (("host", host) :: ("accept", "*/*") :: ("connection", "close") :: size).filter
    fun (name, _) => !r.meaningful.any fun (n, _) => n == name

/-- A request as a message. -/
def Request.message (r : Request) : String :=
  let first := r.method.name ++ " " ++ r.url.target ++ " HTTP/1.1"
  let header : String × String → String := fun (name, value) => name ++ ": " ++ value
  let head := first :: (r.framing ++ r.meaningful).map header
  String.join (head.map (· ++ lineEnd)) ++ lineEnd ++ r.body

namespace Message

/-- The lines up to the first empty one, and the bytes behind it. The line that has
    been begun is given, its last byte first. -/
def cutHead : List Char → List UInt8 → Option (List (List Char) × List UInt8)
  | _, [] => none
  | line, b :: bytes =>
    if b = 10 then
      match (if line.head? = some '\r' then line.drop 1 else line) with
      | [] => some ([], bytes)
      | line => (cutHead [] bytes).map fun (lines, rest) => (line.reverse :: lines, rest)
    else
      cutHead (byteChar b :: line) bytes

/-- Whether a number has the three digits of a status. -/
def isStatus (n : Nat) : Bool := 100 ≤ n && n ≤ 999

/-- The status in the first line of an answer: three digits before a space or the end. -/
def statusOf? (line : List Char) : Option UInt16 :=
  match cut ' ' line with
  | none => none
  | some (version, rest) =>
    let code := rest.takeWhile (· ≠ ' ')
    if version == "HTTP/1.1".toList || version == "HTTP/1.0".toList then
      if code.length = 3 && code.all Char.isDigit then
        ((readNat 999 code).toOption.filter isStatus).map UInt16.ofNat
      else
        none
    else
      none

/-- A line of a head as the name and the value of a header. -/
def headerOf? (line : List Char) : Option (String × String) :=
  (cut ':' line).map fun (name, value) =>
    (headerKey (String.ofList (trim name)), String.ofList (trim value))

/-- The number at the start of the line before a chunk. -/
def chunkSize (line : List Char) : Nat :=
  (line.takeWhile fun c => (hexValue? c).isSome).foldl
    (fun n c => n * 16 + (hexValue? c).getD 0) 0

/-- The content of at most so many chunks up to the empty one. -/
def joinChunks : Nat → List UInt8 → Option (List UInt8)
  | 0, _ => none
  | n + 1, bytes =>
    let line := bytes.takeWhile (· != 10)
    let rest := bytes.drop (line.length + 1)
    let size := chunkSize (line.map byteChar)
    if rest.length < size then
      none
    else if size = 0 then
      if line.isEmpty then none else some []
    else
      (joinChunks n (rest.drop (size + 2))).map (rest.take size ++ ·)

/-- The body in what is behind the head of an answer. -/
def bodyOf? (headers : List (String × String)) (bytes : List UInt8) : Option (List UInt8) :=
  if (headers.lookup "transfer-encoding").any (fun v => headerKey v == "chunked") then
    joinChunks bytes.length bytes
  else
    match headers.lookup contentLength with
    | none => some bytes
    | some length =>
      match readNat maxWord length.toList with
      | .error _ => none
      | .ok n => if bytes.length < n then none else some (bytes.take n)

/-- Whether an answer with a status only announces another one. -/
def isInterim (status : UInt16) : Bool := status < 200 && status != 101

/-- Whether answers with a status have no body. -/
def isBodiless (status : UInt16) : Bool := status == 101 || status == 204 || status == 304

/-- The answer in all bytes of a connection. Heads that only announce another one are
    passed over; of those there may be `n`. -/
def readResponse? : Nat → List UInt8 → Option Response
  | 0, _ => none
  | n + 1, bytes =>
    match cutHead [] bytes with
    | some (first :: lines, rest) =>
      match statusOf? first with
      | none => none
      | some status =>
        if isInterim status then
          readResponse? n rest
        else if isBodiless status then
          some ⟨status, some []⟩
        else
          some ⟨status, bodyOf? (lines.filterMap headerOf?) rest⟩
    | _ => none

end Message

/-- The answer that has come over a connection, if there is one. -/
def Response.ofMessage? (bytes : ByteArray) : Option Response :=
  Message.readResponse? bytes.size bytes.toList

end SyntheticLoad.Http
