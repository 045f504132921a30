import SyntheticLoad.Json.Reader
import SyntheticLoad.Text.Utf8

/-!
# Replies to a login

The reply to a login is a document that may hold a token: an object with a member
`token`, or an array with the token as its only item. The token is a string, or
`null`, which is no token. An object may have any other members; they are only
passed over, so that what does not matter cannot be wrong in a way that does not
matter either. Two tokens, or a token of any other kind, make the reply unreadable.

A reply is read as bytes, each of them as the character of the same number; all that
a document consists of besides its literals is written in ASCII. The bytes of a
literal have to be text only if the literal is kept, as names and tokens are.
-/

namespace SyntheticLoad.Session

open Json Text

/-- Reads a literal from behind its first quote, and the bytes behind it. -/
def readKept (cs : List Char) : Option (List Char × List Char) := do
  let (_, rest) ← readLiteral .skipping cs
  let bytes := (cs.take (cs.length - rest.length)).map fun c => UInt8.ofNat c.toNat
  let (s, _) ← readLiteral .keeping (← textOf? bytes)
  pure (s, rest)

/-- Reads a token in front of other bytes. -/
def readToken (cs : List Char) : Option (Option String × List Char) :=
  match skipSpace cs with
  | 'n' :: 'u' :: 'l' :: 'l' :: rest => some (none, rest)
  | '"' :: rest => (readKept rest).map fun (s, rest) => (some (String.ofList s), rest)
  | _ => none

/-- Reads the members of an object up to its closing brace; `found` is the token so
    far, if there was a member for it. -/
def readReplyMembers : Nat → Option (Option String) → List Char →
    Option (Option String × List Char)
  | 0, _, _ => none
  | fuel + 1, found, cs =>
    match skipSpace cs with
    | '"' :: rest =>
      match readKept rest with
      | none => none
      | some (key, rest) =>
        match skipSpace rest with
        | ':' :: rest =>
          let member : Option (Option (Option String) × List Char) :=
            if key = "token".toList then
              match found with
              | some _ => none
              | none => (readToken rest).map fun (token, rest) => (some token, rest)
            else
              (readValue .skipping (stepsFor rest) rest).map fun (_, rest) => (found, rest)
          match member with
          | none => none
          | some (found, rest) =>
            match skipSpace rest with
            | '\x7d' :: rest => some (found.getD none, rest)
            | ',' :: rest => readReplyMembers fuel found rest
            | _ => none
        | _ => none
    | _ => none

/-- Reads an array whose only item is the token. -/
def readReplyItem (cs : List Char) : Option (Option String × List Char) := do
  let (token, rest) ← readToken cs
  match skipSpace rest with
  | ']' :: rest => pure (token, rest)
  | _ => none

/-- The token in the reply to a login; the outer `none` is that of an unreadable reply. -/
def replyToken? (body : List UInt8) : Option (Option String) := do
  let (token, rest) ← match skipSpace (body.map byteChar) with
    | '\x7b' :: rest =>
      match skipSpace rest with
      | '\x7d' :: rest => some (none, rest)
      | rest => readReplyMembers (rest.length + 1) none rest
    | '[' :: rest => readReplyItem rest
    | _ => none
  if (skipSpace rest).isEmpty then pure token else none

end SyntheticLoad.Session
