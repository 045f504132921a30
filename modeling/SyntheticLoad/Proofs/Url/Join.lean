import SyntheticLoad.Proofs.Text.Cut
import SyntheticLoad.Proofs.Text.Trim
import SyntheticLoad.Url.Parser

/-!
# The user of a longer address

A path is put behind an address by taking the slashes from the end of the address and writing
a slash and the path. What that makes may be no address at all, as when there are blanks behind
the host, which do not count at the end but do inside. If it is one, its user is the user of
the address (`user_join`): the part of the text with the user ends before the first
slash, and what may be added to it, blanks, stands behind the last `@`.
-/

namespace SyntheticLoad.Url

open Text

/-! ### The part with the user -/

/-- Whether a character does not count at the end of an address. -/
def isOuter (c : Char) : Bool := c.toNat ≤ 32

/-- The user's name and password in the part of an address with the host. -/
def authorityUser (authority : List Char) : String × String :=
  readUser (((cutLastAt authority).map Prod.fst).getD [])

/-- Characters that are no `@` may be added behind a host. -/
theorem authorityUser_append {more : List Char} (h : '@' ∉ more) (authority : List Char) :
    authorityUser (authority ++ more) = authorityUser authority := by
  have hmore : '@' ∉ more.reverse := fun hmem => h (List.mem_reverse.1 hmem)
  rw [authorityUser, authorityUser, cutLastAt, cutLastAt, List.reverse_append, cut_append hmore,
    Option.map_map, Option.map_map, Option.map_map]
  rfl

theorem not_endsAuthority_of_isOuter {c : Char} (hc : isOuter c = true) :
    (!endsAuthority .special c) = true := by
  have hle : c.toNat ≤ 32 := of_decide_eq_true hc
  rw [Bool.not_eq_true', endsAuthority]
  simp only [Bool.or_eq_false_iff, Bool.and_eq_false_imp, beq_eq_false_iff_ne]
  refine ⟨⟨⟨?_, ?_⟩, ?_⟩, fun _ => ?_⟩ <;>
  · rintro rfl
    exact absurd hle (by decide)

/-- Blanks may be added behind a host. -/
theorem authorityUser_blanks {blanks : List Char} (h : ∀ c ∈ blanks, isOuter c = true)
    (cs : List Char) :
    authorityUser ((cs ++ blanks).takeWhile fun c => !endsAuthority .special c) =
      authorityUser (cs.takeWhile fun c => !endsAuthority .special c) := by
  have hinside : blanks.takeWhile (fun c => !endsAuthority .special c) = blanks := by
    rw [← List.append_nil blanks, List.takeWhile_append_of_pos fun c hc =>
      not_endsAuthority_of_isOuter (h c hc)]
    rfl
  rw [List.takeWhile_append]
  split
  · next hall =>
    have hcs : cs.takeWhile (fun c => !endsAuthority .special c) = cs :=
      (List.takeWhile_prefix _).eq_of_length hall
    rw [hinside, hcs]
    exact authorityUser_append (fun hmem => absurd (h '@' hmem) (by decide)) cs
  · rfl

/-- The user of an address is read from the part with the host. -/
theorem readWithHost_eq_ok {kind : SchemeKind} {scheme : String} {cs : List Char} {url : Url}
    (h : readWithHost kind scheme cs = .ok url) : url.scheme = scheme ∧
      (url.username, url.password) =
        authorityUser (cs.takeWhile fun c => !endsAuthority kind c) := by
  rw [readWithHost] at h
  simp only [bind, Except.bind, pure, Except.pure] at h
  split at h
  case h_2 hcut =>
    split at h
    · split at h
      · cases h
      · cases h
        rw [authorityUser, hcut]
        exact ⟨rfl, rfl⟩
    · cases h
  all_goals
    split at h
    · cases h
    split at h
    · cases h
    split at h
    · cases h
    cases h
    rw [authorityUser, ‹cutLastAt _ = _›]
    exact ⟨rfl, rfl⟩

/-- The host of an address is read from the part with the host, and with the same part there is
    another address. -/
theorem readWithHost_congr {scheme : String} {cs cs' : List Char} {url : Url}
    (h : readWithHost .special scheme cs = .ok url)
    (hsame : (cs'.takeWhile fun c => !endsAuthority .special c) =
      cs.takeWhile fun c => !endsAuthority .special c) :
    ∃ url', readWithHost .special scheme cs' = .ok url' ∧ url'.host = url.host := by
  rw [readWithHost] at h ⊢
  rw [hsame]
  simp only [bind, Except.bind, pure, Except.pure] at h ⊢
  generalize cs.takeWhile (fun c => !endsAuthority .special c) = authority at h ⊢
  split at h
  case h_2 =>
    -- There is nothing but an `@`, and so there is no host.
    split at h
    · split at h
      · cases h
      · next hhost => cases hhost
    · cases h
  all_goals
    split at h
    · cases h
    split at h
    · cases h
    next hhosted =>
    rw [if_neg hhosted]
    split at h
    · cases h
    cases h
    exact ⟨_, rfl, rfl⟩

/-- Without anything behind the slashes there is no host. -/
theorem readWithHost_nil (scheme : String) (url : Url) :
    readWithHost .special scheme [] ≠ .ok url := by
  intro h
  cases h

/-! ### Longer addresses -/

theorem readScheme_eq_some_iff {cs rest : List Char} {scheme : String} :
    readScheme cs = some (scheme, rest) ↔
      (∃ c, cs.head? = some c ∧ c.isAlpha = true) ∧ cs.dropWhile isSchemeChar = ':' :: rest ∧
        String.ofList (lower (cs.takeWhile isSchemeChar)) = scheme := by
  cases cs with
  | nil =>
    constructor
    · rintro ⟨⟩
    · rintro ⟨⟨_, ⟨⟩, _⟩, _⟩
  | cons c cs =>
    rw [readScheme]
    split
    · next halpha =>
      constructor
      · intro h
        split at h
        · next hdrop =>
          cases h
          exact ⟨⟨c, rfl, halpha⟩, hdrop, rfl⟩
        · cases h
      · rintro ⟨_, hdrop, hscheme⟩
        rw [hdrop, ← hscheme]
        rfl
    · next halpha =>
      constructor
      · rintro ⟨⟩
      · rintro ⟨⟨d, hd, hdalpha⟩, _⟩
        cases hd
        exact absurd hdalpha halpha

/-- A scheme is read from the text before the slashes at its end, whatever stands there instead. -/
theorem readScheme_append {cs slashes : List Char} (hslashes : ∀ c ∈ slashes, c = '/')
    {scheme : String} {rest : List Char} (h : readScheme (cs ++ slashes) = some (scheme, rest)) :
    ∃ behind, rest = behind ++ slashes ∧
      ∀ more, readScheme (cs ++ more) = some (scheme, behind ++ more) := by
  have hstop : ∀ c ∈ slashes, isSchemeChar c = false := by
    intro c hc
    rw [hslashes c hc]
    decide
  obtain ⟨⟨c, hhead, halpha⟩, hdrop, hscheme⟩ := readScheme_eq_some_iff.1 h
  -- The colon is not among the slashes.
  have hne : cs.dropWhile isSchemeChar ≠ [] := by
    intro hnil
    rw [List.dropWhile_append, hnil, List.isEmpty_nil, if_pos rfl, dropWhile_stop hstop] at hdrop
    have hcolon := hslashes ':' (hdrop ▸ List.mem_cons_self)
    exact absurd hcolon (by decide)
  rw [dropWhile_append_of_ne_nil hne] at hdrop
  obtain ⟨behind, hbehind⟩ : ∃ behind, cs.dropWhile isSchemeChar = ':' :: behind := by
    cases hcs : cs.dropWhile isSchemeChar with
    | nil => exact absurd hcs hne
    | cons d behind =>
      rw [hcs] at hdrop
      exact ⟨behind, congrArg (· :: behind) (List.cons.inj hdrop).1⟩
  rw [hbehind] at hdrop
  refine ⟨behind, ((List.cons.inj hdrop).2).symm, fun more => readScheme_eq_some_iff.2 ⟨?_, ?_, ?_⟩⟩
  · cases cs with
    | nil => exact absurd rfl hne
    | cons d cs => exact ⟨c, hhead, halpha⟩
  · rw [dropWhile_append_of_ne_nil hne, hbehind]
    rfl
  · obtain ⟨before, hcs⟩ : ∃ before, cs = before ++ ':' :: behind :=
      ⟨_, (hbehind ▸ List.takeWhile_append_dropWhile).symm⟩
    have hcolon : isSchemeChar ':' = false := by decide
    rw [← hscheme, takeWhile_append_stop hstop, hcs, List.append_assoc, List.cons_append,
      takeWhile_append_cons hcolon, takeWhile_append_cons hcolon]

/-- The text of an address without what does not count. -/
def counted (cs : List Char) : List Char := (trimBy isOuter cs).filter fun c => !isIgnored c

/-- The texts of an address and of one with a path begin with the same text, after which there
    are only slashes in the one and blanks in front of the path in the other. -/
theorem exists_counted (cs path : List Char) :
    ∃ own slashes blanks rest : List Char, counted cs = own ++ slashes ∧
      counted (trimRight (· == '/') cs ++ '/' :: path) = own ++ (blanks ++ '/' :: rest) ∧
      (∀ c ∈ slashes, c = '/') ∧ (∀ c ∈ blanks, isOuter c = true) ∧
      (trimRight isOuter cs = cs → blanks = []) := by
  obtain ⟨slashes, hcs, hslashes⟩ := exists_trimRight (· == '/') cs
  have hslash : isOuter '/' = false := by decide
  have hinner : ∀ c ∈ slashes, isOuter c = false := by
    intro c hc
    rw [beq_iff_eq.1 (hslashes c hc)]
    exact hslash
  generalize trimRight (· == '/') cs = base at hcs ⊢
  subst hcs
  have hleft : trimLeft isOuter (base ++ slashes) = trimLeft isOuter base ++ slashes :=
    dropWhile_append_stay (dropWhile_stop hinner) base
  have hjoined : trimLeft isOuter (base ++ '/' :: path) = trimLeft isOuter base ++ '/' :: path :=
    dropWhile_append_stay (List.dropWhile_cons_of_neg (by simp [hslash])) base
  have hbase : base = base.takeWhile isOuter ++ trimLeft isOuter base :=
    List.takeWhile_append_dropWhile.symm
  rw [counted, counted, trimBy, trimBy, hleft, hjoined, trimRight_append_cons hslash]
  generalize trimLeft isOuter base = text at hbase ⊢
  cases slashes with
  | nil =>
    -- What is trimmed at the end of the address stays in front of the path.
    obtain ⟨blanks, htext, hblanks⟩ := exists_trimRight isOuter text
    refine ⟨(trimRight isOuter text).filter fun c => !isIgnored c, [],
      blanks.filter fun c => !isIgnored c, (trimRight isOuter path).filter fun c => !isIgnored c,
      ?_, ?_, fun c hc => ?_, fun c hc => ?_, fun htrimmed => ?_⟩
    · rw [List.append_nil, List.append_nil]
    · rw [← List.append_assoc, ← List.filter_append, ← htext, List.filter_append]
      rfl
    · exact absurd hc List.not_mem_nil
    · exact hblanks c (List.mem_filter.1 hc).1
    · rw [List.append_nil, hbase, htext, ← List.append_assoc] at htrimmed
      rw [eq_nil_of_trimRight htrimmed hblanks]
      rfl
  | cons c slashes =>
    refine ⟨text.filter fun c => !isIgnored c, (c :: slashes).filter fun c => !isIgnored c, [],
      (trimRight isOuter path).filter fun c => !isIgnored c, ?_, ?_, fun d hd => ?_, fun d hd => ?_,
      fun _ => rfl⟩
    · rw [trimRight_append_cons (hinner c List.mem_cons_self),
        trimRight_stop fun d hd => hinner d (List.mem_cons_of_mem c hd), List.filter_append]
    · rw [List.filter_append]
      rfl
    · exact beq_iff_eq.1 (hslashes d (List.mem_filter.1 hd).1)
    · exact absurd hd List.not_mem_nil

theorem scheme_readFile {cs : List Char} {url : Url} (h : readFile cs = .ok url) :
    url.scheme = "file" := by
  rw [readFile] at h
  simp only [bind, Except.bind, pure, Except.pure] at h
  repeat' split at h
  all_goals cases h <;> rfl

theorem scheme_readOther {scheme : String} {cs : List Char} {url : Url}
    (h : readOther scheme cs = .ok url) : url.scheme = scheme := by
  unfold readOther at h
  split at h
  · exact (readWithHost_eq_ok h).1
  · simp only at h
    split at h
    · cases h
      rfl
    · cases h
      rfl

/-- Whether a character may stand between a scheme and a host. -/
def isSlash (c : Char) : Bool := c == '/' || c == '\\'

theorem parse_eq (s : String) : parse s =
    match readScheme (counted s.toList) with
    | none => .error .noScheme
    | some (scheme, rest) =>
      match SchemeKind.ofScheme scheme with
      | .special => readWithHost .special scheme (rest.dropWhile isSlash)
      | .file => readFile rest
      | .other => readOther scheme rest := rfl

/-- An address in a special scheme has been read as one with a host. -/
theorem parse_special {s : String} {url : Url} (h : parse s = .ok url)
    (hspecial : SchemeKind.ofScheme url.scheme = .special) : ∃ rest,
      readScheme (counted s.toList) = some (url.scheme, rest) ∧
      readWithHost .special url.scheme (rest.dropWhile isSlash) = .ok url := by
  rw [parse_eq] at h
  split at h
  · cases h
  · next scheme rest hscheme =>
    split at h
    · have heq := (readWithHost_eq_ok h).1
      subst heq
      exact ⟨rest, hscheme, h⟩
    · rw [scheme_readFile h] at hspecial
      exact absurd hspecial (by decide)
    · next hother =>
      rw [scheme_readOther h, hother] at hspecial
      cases hspecial

/-- An address in a special scheme and one with a path behind it are read from the same text, with
    slashes behind it in the one and blanks in front of the path in the other. -/
theorem exists_parse_join {address : String} {url : Url} (hurl : parse address = .ok url)
    (hspecial : SchemeKind.ofScheme url.scheme = .special) (path : List Char) :
    ∃ text slashes blanks rest : List Char,
      readWithHost .special url.scheme (text ++ slashes) = .ok url ∧
      parse (String.ofList (trimRight (· == '/') address.toList ++ '/' :: path)) =
        readWithHost .special url.scheme (text ++ (blanks ++ '/' :: rest)) ∧
      (∀ c ∈ slashes, c = '/') ∧ (∀ c ∈ blanks, isOuter c = true) ∧
      (trimRight isOuter address.toList = address.toList → blanks = []) := by
  obtain ⟨own, slashes, blanks, rest, hown, hlonger, hslashes, hblanks, hnone⟩ :=
    exists_counted address.toList path
  obtain ⟨behind, hscheme, hread⟩ := parse_special hurl hspecial
  rw [hown] at hscheme
  obtain ⟨host, rfl, hsame⟩ := readScheme_append hslashes hscheme
  -- There is something between the scheme and the slashes at the end, as there is a host.
  have hne : host.dropWhile isSlash ≠ [] := by
    intro hnil
    have hall : slashes.dropWhile isSlash = [] := by
      rw [← List.append_nil slashes]
      exact List.dropWhile_append_of_pos fun c hc => by rw [hslashes c hc]; decide
    rw [List.dropWhile_append, hnil, List.isEmpty_nil, if_pos rfl, hall] at hread
    exact readWithHost_nil _ _ hread
  refine ⟨host.dropWhile isSlash, slashes, blanks, rest, ?_, ?_, hslashes, hblanks, hnone⟩
  · rw [← dropWhile_append_of_ne_nil hne]
    exact hread
  · rw [parse_eq, String.toList_ofList, hlonger, hsame]
    simp only [hspecial]
    rw [dropWhile_append_of_ne_nil hne]

theorem endsAuthority_slash : (!endsAuthority .special '/') = false := by decide

/-- **The user of an address does not change when a path is put behind it.** -/
theorem user_join {address : String} {path : List Char} {url joined : Url}
    (hurl : parse address = .ok url) (hspecial : SchemeKind.ofScheme url.scheme = .special)
    (hjoined : parse (String.ofList (trimRight (· == '/') address.toList ++ '/' :: path)) =
      .ok joined) :
    joined.username = url.username ∧ joined.password = url.password := by
  obtain ⟨text, slashes, blanks, rest, hread, hlonger, hslashes, hblanks, -⟩ :=
    exists_parse_join hurl hspecial path
  rw [hlonger] at hjoined
  have huser := (readWithHost_eq_ok hread).2
  have hjoinedUser := (readWithHost_eq_ok hjoined).2
  rw [takeWhile_append_stop fun c hc => hslashes c hc ▸ endsAuthority_slash] at huser
  rw [← List.append_assoc, takeWhile_append_cons endsAuthority_slash] at hjoinedUser
  rw [authorityUser_blanks hblanks] at hjoinedUser
  exact Prod.mk.inj (hjoinedUser.trans huser.symm)

/-- **A path may be put behind any address that does not end in blanks.** The host stays. -/
theorem exists_join {address : String} {url : Url} (hurl : parse address = .ok url)
    (hspecial : SchemeKind.ofScheme url.scheme = .special)
    (hblanks : trimRight isOuter address.toList = address.toList) (path : List Char) :
    ∃ joined, parse (String.ofList (trimRight (· == '/') address.toList ++ '/' :: path)) =
      .ok joined ∧ joined.scheme = url.scheme ∧ joined.host = url.host := by
  obtain ⟨text, slashes, blanks, rest, hread, hlonger, hslashes, -, hnone⟩ :=
    exists_parse_join hurl hspecial path
  obtain rfl := hnone hblanks
  have hsame : (text ++ '/' :: rest).takeWhile (fun c => !endsAuthority .special c) =
      (text ++ slashes).takeWhile fun c => !endsAuthority .special c := by
    rw [takeWhile_append_cons endsAuthority_slash,
      takeWhile_append_stop fun c hc => hslashes c hc ▸ endsAuthority_slash]
  obtain ⟨joined, hjoined, hhost⟩ := readWithHost_congr hread hsame
  exact ⟨joined, hlonger.trans hjoined, (readWithHost_eq_ok hjoined).1, hhost⟩

end SyntheticLoad.Url
