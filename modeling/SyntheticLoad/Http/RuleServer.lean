import SyntheticLoad.Http.Message

/-!
# Servers by rules

A server for trying out runs. It answers a request by the first of its rules that
fits; a rule may be good for a number of uses only. Without a rule that fits the
answer is 404. The server keeps the requests that it gets, and whatever goes to
another address is not answered.
-/

namespace SyntheticLoad.Http

open Text

/-- How a rule answers. -/
inductive RuleAnswer
  /-- With a status and a body, which may break off. The status may be any number. -/
  | respond (status : Nat) (body : String) (breaksOff : Bool)
  /-- Not at all. -/
  | drop
  deriving DecidableEq, Repr

/-- A rule. What it does not name may be anything. -/
structure Rule where
  method : Option String
  /-- How the path and the query begin. -/
  targetStart : Option String
  /-- The credentials. -/
  authorization : Option String
  /-- A part of the body. -/
  bodyPart : Option String
  /-- The uses that are left. -/
  uses : Option Nat
  answer : RuleAnswer
  deriving DecidableEq, Repr

/-- Whether a text has a given part. -/
def hasPart (part : List Char) : List Char → Bool
  | [] => part.isEmpty
  | c :: cs => part.isPrefixOf (c :: cs) || hasPart part cs

/-- The value of a header as a server sees it: without spaces and tabs around it. -/
def seenValue (value : String) : String :=
  String.ofList (trimBy (fun c => c == ' ' || c == '\t') value.toList)

/-- The credentials of a request. -/
def credentials? (r : Request) : Option String := (r.headers.lookup authorization).map seenValue

/-- Whether a rule fits a request. -/
def Rule.fits (rule : Rule) (r : Request) : Bool :=
  rule.method.all (· == r.method.name) &&
    rule.targetStart.all (fun s => s.toList.isPrefixOf r.url.target.toList) &&
    rule.authorization.all (fun s => credentials? r == some s) &&
    rule.bodyPart.all (fun s => hasPart s.toList r.body.toList) &&
    rule.uses.all (0 < ·)

/-- A rule after one more use. -/
def Rule.use (rule : Rule) : Rule := { rule with uses := rule.uses.map (· - 1) }

/-- The answer of the first rule that fits, and the rules after it. -/
def firstAnswer (r : Request) : List Rule → RuleAnswer × List Rule
  | [] => (.respond 404 "" false, [])
  | rule :: rules =>
    if rule.fits r then
      (rule.answer, rule.use :: rules)
    else
      let (answer, rules) := firstAnswer r rules
      (answer, rule :: rules)

/-- What arrives of an answer. A number that is no status is no answer. Behind a status
    that only announces an answer, the body has to be that answer. -/
def RuleAnswer.response : RuleAnswer → Option Response
  | .drop => none
  | .respond n body breaksOff =>
    if Message.isStatus n then
      let status := UInt16.ofNat n
      if Message.isInterim status then Response.ofMessage? body.toUTF8
      else if Message.isBodiless status then some ⟨status, some []⟩
      else some ⟨status, if breaksOff then none else some body.toUTF8.toList⟩
    else
      none

/-- A server. -/
structure RuleServer where
  rules : List Rule
  /-- The requests so far, the last one first. -/
  received : List Request
  deriving DecidableEq, Repr

/-- The network with nothing but one server on it. -/
def RuleServer.network (host : Host) (port : Nat) : Network RuleServer where
  answer request server :=
    let url := request.url
    if url.scheme = "http" ∧ url.host = some host ∧ url.targetPort? = some port then
      let (answer, rules) := firstAnswer request server.rules
      (answer.response, ⟨rules, request :: server.received⟩)
    else
      (none, server)

end SyntheticLoad.Http
