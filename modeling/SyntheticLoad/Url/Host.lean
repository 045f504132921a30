import SyntheticLoad.Text.Utf8
import SyntheticLoad.Url.Domain
import SyntheticLoad.Url.Ipv4
import SyntheticLoad.Url.Ipv6
import SyntheticLoad.Url.Percent

/-!
# Hosts

In a special scheme a host is an address in brackets, a number, or a domain; the
scheme of files has such hosts, too. In any other scheme a host that is not in
brackets is taken as it stands.
-/

namespace SyntheticLoad.Host

/-- The text between brackets, if there are brackets around it. -/
def bracketed? (cs : List Char) : Option (List Char) :=
  match cs with
  | '[' :: rest => if rest.getLast? = some ']' then some rest.dropLast else none
  | _ => none

/-- The address between brackets. -/
def readBracketed (cs : List Char) : Except UrlError Host :=
  match bracketed? cs with
  | none => .error .invalidIpv6
  | some inner => (readIpv6 inner).map .ipv6

/-- The host of a special scheme. -/
def readSpecial (cs : List Char) : Except UrlError Host :=
  if cs.head? = some '[' then
    readBracketed cs
  else
    match Text.textOf? (Url.percentDecode cs) with
    | none => .error .invalidDomain
    | some decoded =>
      match asciiDomain? decoded with
      | none => .error .invalidDomain
      | some [] => .error .emptyHost
      | some name =>
        if endsInNumber name then
          (readIpv4 name).map .ipv4
        else
          .ok (.domain (String.ofList name))

/-- Whether a character may not stand in the host of a scheme that is not special. -/
def isForbiddenElsewhere (c : Char) : Bool :=
  c.toNat = 0 || " #/:<>?@[\\]^|".contains c

/-- The host of a scheme that is not special. -/
def readOther (cs : List Char) : Except UrlError Host :=
  if cs.head? = some '[' then
    readBracketed cs
  else if cs.any isForbiddenElsewhere then
    .error .invalidDomainCharacter
  else
    .ok (.domain (String.ofList (Url.percentEncode Url.isControl cs)))

end SyntheticLoad.Host
