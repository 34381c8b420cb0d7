import Mathlib.Data.List.DropRight
import Mathlib.Data.List.TakeWhile

/-!
# The generic URL syntax

A URL is taken apart at its delimiters: the fragment after the first `#`, the query
after the first `?` before it, the scheme before the first colon, the authority after
`//`, and the path, which is the rest.  Every text is split, valid or not.

The path of a URL without a query and a fragment can be extended behind the URL itself,
trailing slashes taken off, unless these are the slashes of an empty authority.

    authority ≠ "" → splitUrl (trimSlashes url ++ "/x…") =
      { splitUrl url with path := trimSlashes path ++ "/x…" }       (splitUrl_extend)
-/

namespace Url

/-! ## Algorithm -/

structure UrlParts where
  scheme : Option (List Char)
  authority : Option (List Char)
  path : List Char
  query : Option (List Char)
  fragment : Option (List Char)
deriving DecidableEq

def beforeFirst (c : Char) (s : List Char) : List Char := s.takeWhile (· ≠ c)

/-- What follows the first `c`, if there is one. -/
def afterFirst (c : Char) (s : List Char) : Option (List Char) :=
  match s.dropWhile (· ≠ c) with
  | [] => none
  | _ :: rest => some rest

/-- What may stand in a scheme as far as splitting goes. -/
def isSchemeChar (c : Char) : Bool := c ≠ ':' && c ≠ '/' && c ≠ '?' && c ≠ '#'

/-- `(([^:/?#]+):)?` and the rest. -/
def splitScheme (s : List Char) : Option (List Char) × List Char :=
  match s.takeWhile isSchemeChar, s.dropWhile isSchemeChar with
  | c :: head, ':' :: rest => (some (c :: head), rest)
  | _, _ => (none, s)

/-- `(//([^/]*))?` and the path. -/
def splitAuthority : List Char → Option (List Char) × List Char
  | '/' :: '/' :: rest => (some (rest.takeWhile (· ≠ '/')), rest.dropWhile (· ≠ '/'))
  | s => (none, s)

def splitUrl (url : List Char) : UrlParts :=
  let front := beforeFirst '#' url
  let scheme := splitScheme (beforeFirst '?' front)
  let authority := splitAuthority scheme.2
  ⟨scheme.1, authority.1, authority.2, afterFirst '?' front, afterFirst '#' url⟩

/-- The host and the port of an authority, behind its user; an IP literal stands in brackets. -/
def hostPort (authority : List Char) : List Char × Option (List Char) :=
  match authority.rtakeWhile (· ≠ '@') with
  | '[' :: rest => ('[' :: beforeFirst ']' rest ++ [']'], afterFirst ':' (rest.dropWhile (· ≠ ']')))
  | s => (beforeFirst ':' s, afterFirst ':' s)

def UrlParts.host (u : UrlParts) : Option (List Char) := u.authority.map fun a => (hostPort a).1

def UrlParts.port (u : UrlParts) : Option (List Char) := u.authority.bind fun a => (hostPort a).2

/-- `s.rstrip('/')`. -/
def trimSlashes (s : List Char) : List Char := s.rdropWhile (· = '/')

/-- What needs no percent encoding. -/
def isUnreserved (c : Char) : Bool :=
  ('a' ≤ c && c ≤ 'z') || ('A' ≤ c && c ≤ 'Z') || ('0' ≤ c && c ≤ '9') ||
    c = '-' || c = '.' || c = '_' || c = '~'

/-- `%XX`. -/
def percentByte (b : UInt8) : List Char :=
  ['%', (Nat.digitChar (b.toNat / 16)).toUpper, (Nat.digitChar (b.toNat % 16)).toUpper]

/-- `quote(text, safe='')`: the UTF-8 bytes of every other character. -/
def quote (text : List Char) : List Char :=
  text.flatMap fun c => if isUnreserved c then [c] else (String.utf8EncodeChar c).flatMap percentByte

/-! ## Lemmas -/

theorem quote_eq_self {text : List Char} (h : ∀ c ∈ text, isUnreserved c = true) :
    quote text = text := by
  unfold quote
  induction text with
  | nil => rfl
  | cons c text ih =>
    obtain ⟨hc, htext⟩ := List.forall_mem_cons.mp h
    rw [List.flatMap_cons, if_pos hc, ih htext]
    rfl

/-- What `dropWhile` stops at. -/
theorem dropWhile_head {p : Char → Bool} {s : List Char} {x : Char} {rest : List Char}
    (h : s.dropWhile p = x :: rest) : p x = false := by
  have hne : s.dropWhile p ≠ [] := by rw [h]; exact List.cons_ne_nil _ _
  have hhead := List.head_dropWhile_not p hne
  simpa only [h, List.head_cons] using hhead

theorem beforeFirst_eq_self {c : Char} {s : List Char} (h : c ∉ s) : beforeFirst c s = s := by
  unfold beforeFirst
  rw [List.takeWhile_eq_self_iff]
  intro x hx
  simpa using fun hxc : x = c => h (hxc ▸ hx)

theorem afterFirst_eq_none_iff {c : Char} {s : List Char} : afterFirst c s = none ↔ c ∉ s := by
  unfold afterFirst
  split
  · next hnil =>
    rw [List.dropWhile_eq_nil_iff] at hnil
    refine iff_of_true rfl ?_
    intro hc
    simpa using hnil c hc
  · next x rest hcons =>
    refine iff_of_false nofun ?_
    rw [not_not]
    have hx : x = c := by simpa using dropWhile_head hcons
    have hmem : x ∈ s.dropWhile (· ≠ c) := by rw [hcons]; exact List.mem_cons_self
    rw [← hx]
    exact (List.dropWhile_suffix _).subset hmem

/-- There is neither a query nor a fragment where their delimiters are not. -/
theorem splitUrl_no_query_iff (url : List Char) :
    (splitUrl url).query = none ∧ (splitUrl url).fragment = none ↔ '?' ∉ url ∧ '#' ∉ url := by
  change afterFirst '?' (beforeFirst '#' url) = none ∧ afterFirst '#' url = none ↔ _
  rw [afterFirst_eq_none_iff, afterFirst_eq_none_iff]
  refine and_congr_left ?_
  intro h
  rw [beforeFirst_eq_self h]

/-! ### Trailing slashes -/

theorem trimSlashes_append {r : List Char} (h : trimSlashes r ≠ []) (l : List Char) :
    trimSlashes (l ++ r) = l ++ trimSlashes r := by
  unfold trimSlashes List.rdropWhile at *
  rw [List.reverse_append, List.dropWhile_append, if_neg (by simpa using h), List.reverse_append,
    List.reverse_reverse]

theorem trimSlashes_append_nil {r : List Char} (h : trimSlashes r = []) (l : List Char) :
    trimSlashes (l ++ r) = trimSlashes l := by
  unfold trimSlashes List.rdropWhile at *
  rw [List.reverse_append, List.dropWhile_append, if_pos (by simpa using h)]

/-- A character that is no slash keeps all before it. -/
theorem trimSlashes_cons {c : Char} (hc : c ≠ '/') (r : List Char) :
    trimSlashes (c :: r) = c :: trimSlashes r := by
  by_cases h : trimSlashes r = []
  · rw [h, ← List.singleton_append, trimSlashes_append_nil h]
    unfold trimSlashes
    rw [List.rdropWhile_singleton, if_neg (by simpa using hc)]
  · exact trimSlashes_append h [c]

theorem trimSlashes_append_cons (l : List Char) {c : Char} (hc : c ≠ '/') (r : List Char) :
    trimSlashes (l ++ c :: r) = l ++ c :: trimSlashes r := by
  rw [trimSlashes_append, trimSlashes_cons hc]
  rw [trimSlashes_cons hc]
  exact List.cons_ne_nil _ _

/-- After a slash either all is slashes, or the slash stays. -/
theorem trimSlashes_slash (r : List Char) :
    trimSlashes ('/' :: r) = [] ∧ trimSlashes r = [] ∨
      trimSlashes ('/' :: r) = '/' :: trimSlashes r ∧ trimSlashes r ≠ [] := by
  by_cases h : trimSlashes r = []
  · refine .inl ⟨?_, h⟩
    rw [← List.singleton_append, trimSlashes_append_nil h]
    rfl
  · exact .inr ⟨trimSlashes_append h ['/'], h⟩

/-- Only slashes are taken off. -/
theorem mem_trimSlashes {d : Char} (hd : d ≠ '/') {s : List Char} (h : d ∈ s) :
    d ∈ trimSlashes s := by
  rw [← List.rdropWhile_append_rtakeWhile (l := s) (p := (· = '/')), List.mem_append] at h
  refine h.resolve_right ?_
  intro hslash
  exact hd (by simpa using List.mem_rtakeWhile_imp hslash)

/-! ### Extending the path -/

section Extend

variable {head : List Char}

/-- A text splits at its first delimiter. -/
theorem splitScheme_delimiter (hhead : ∀ c ∈ head, isSchemeChar c = true) {d : Char}
    (hd : isSchemeChar d = false) (rest : List Char) :
    splitScheme (head ++ d :: rest) =
      if d = ':' ∧ head ≠ [] then (some head, rest) else (none, head ++ d :: rest) := by
  unfold splitScheme
  rw [List.takeWhile_append_of_pos hhead, List.dropWhile_append_of_pos hhead,
    List.takeWhile_cons_of_neg (by rw [hd]; exact Bool.false_ne_true),
    List.dropWhile_cons_of_neg (by rw [hd]; exact Bool.false_ne_true), List.append_nil]
  cases head with
  | nil => simp
  | cons c head =>
    by_cases hcolon : d = ':'
    · subst hcolon
      simp
    · rw [if_neg (fun h => hcolon h.1)]
      split
      · next _ heq =>
        cases heq
        exact absurd rfl hcolon
      · rfl

/-- Text without a delimiter has no last slash. -/
theorem trimSlashes_scheme (hhead : ∀ c ∈ head, isSchemeChar c = true) : trimSlashes head = head := by
  unfold trimSlashes
  rw [List.rdropWhile_eq_self_iff]
  intro hne hslash
  have hlast := hhead _ (List.getLast_mem hne)
  rw [decide_eq_true_eq] at hslash
  rw [hslash] at hlast
  cases hlast

theorem splitScheme_all (hhead : ∀ c ∈ head, isSchemeChar c = true) :
    splitScheme head = (none, head) := by
  unfold splitScheme
  rw [List.dropWhile_eq_nil_iff.mpr hhead]
  split
  · next _ heq => cases heq
  · rfl

/-- A delimiter stays where it is, if only as the slash of the extension. -/
theorem trimSlashes_delimiter (hhead : ∀ c ∈ head, isSchemeChar c = true) (d : Char)
    (rest tail : List Char) : ∃ rest',
      trimSlashes (head ++ d :: rest) ++ '/' :: tail = head ++ d :: rest' := by
  by_cases hd : d = '/'
  · subst hd
    rcases trimSlashes_slash rest with ⟨hnil, -⟩ | ⟨hcons, -⟩
    · refine ⟨tail, ?_⟩
      rw [trimSlashes_append_nil hnil, trimSlashes_scheme hhead]
    · refine ⟨trimSlashes rest ++ '/' :: tail, ?_⟩
      rw [trimSlashes_append (by rw [hcons]; exact List.cons_ne_nil _ _), hcons, List.append_assoc,
        List.cons_append]
  · refine ⟨trimSlashes rest ++ '/' :: tail, ?_⟩
    rw [trimSlashes_append_cons head hd, List.append_assoc, List.cons_append]

/-- What follows the scheme is extended behind the text. -/
theorem splitScheme_extend (s tail : List Char) : splitScheme (trimSlashes s ++ '/' :: tail) =
    ((splitScheme s).1, trimSlashes (splitScheme s).2 ++ '/' :: tail) := by
  have hslash : isSchemeChar '/' = false := rfl
  have hhead : ∀ c ∈ s.takeWhile isSchemeChar, isSchemeChar c = true := fun c => List.mem_takeWhile_imp
  have hs : s.takeWhile isSchemeChar ++ s.dropWhile isSchemeChar = s := List.takeWhile_append_dropWhile
  generalize s.takeWhile isSchemeChar = head at hhead hs
  cases hrest : s.dropWhile isSchemeChar with
  | nil =>
    obtain rfl : head = s := by rw [← hs, hrest, List.append_nil]
    rw [trimSlashes_scheme hhead, splitScheme_delimiter hhead hslash, splitScheme_all hhead,
      if_neg (fun h => absurd h.1 (by decide)), trimSlashes_scheme hhead]
  | cons d rest =>
    have hd : isSchemeChar d = false := dropWhile_head hrest
    rw [hrest] at hs
    rw [← hs, splitScheme_delimiter hhead hd]
    by_cases hscheme : d = ':' ∧ head ≠ []
    · obtain ⟨rfl, hne⟩ := hscheme
      rw [if_pos ⟨rfl, hne⟩, trimSlashes_append_cons head (by decide), List.append_assoc,
        List.cons_append, splitScheme_delimiter hhead hd, if_pos ⟨rfl, hne⟩]
    · rw [if_neg hscheme]
      obtain ⟨rest', htext⟩ := trimSlashes_delimiter hhead d rest tail
      rw [htext, splitScheme_delimiter hhead hd, if_neg hscheme]

theorem splitAuthority_none {s : List Char} (h : ∀ rest, s ≠ '/' :: '/' :: rest) :
    splitAuthority s = (none, s) := by
  unfold splitAuthority
  split
  · next rest => exact absurd rfl (h rest)
  · rfl

/-- An extended path begins with a slash. -/
theorem extend_slash {p : List Char} (hp : ∀ c rest, p = c :: rest → c = '/') (tail : List Char) :
    ∃ q, trimSlashes p ++ '/' :: tail = '/' :: q := by
  cases p with
  | nil => exact ⟨tail, rfl⟩
  | cons d p =>
    obtain rfl : d = '/' := hp d p rfl
    rcases trimSlashes_slash p with ⟨hnil, -⟩ | ⟨hcons, -⟩
    · rw [hnil]
      exact ⟨tail, rfl⟩
    · rw [hcons]
      exact ⟨_, rfl⟩

/-- The path after an authority is extended. -/
theorem splitAuthority_extend_some {a p : List Char} (hne : a ≠ []) (ha : ∀ c ∈ a, c ≠ '/')
    (hp : ∀ c rest, p = c :: rest → c = '/') (tail : List Char) :
    splitAuthority (trimSlashes ('/' :: '/' :: (a ++ p)) ++ '/' :: tail) =
      (some a, trimSlashes p ++ '/' :: tail) := by
  obtain ⟨q, hq⟩ := extend_slash hp tail
  obtain ⟨a', x, rfl⟩ := (List.eq_nil_or_concat' a).resolve_left hne
  have hx : x ≠ '/' := ha x (by simp)
  have htext : trimSlashes ('/' :: '/' :: (a' ++ [x] ++ p)) ++ '/' :: tail =
      '/' :: '/' :: (a' ++ [x] ++ '/' :: q) := by
    have h := trimSlashes_append_cons ('/' :: '/' :: a') hx p
    rw [← hq]
    simpa using congrArg (· ++ '/' :: tail) h
  rw [htext, hq]
  have hall : ∀ c ∈ a' ++ [x], decide (c ≠ '/') = true := fun c hc => by simpa using ha c hc
  rw [splitAuthority, List.takeWhile_append_of_pos hall, List.dropWhile_append_of_pos hall,
    List.takeWhile_cons_of_neg (by decide), List.dropWhile_cons_of_neg (by decide), List.append_nil]

/-- The path is extended behind the text, unless its slashes are those of an empty authority. -/
theorem splitAuthority_extend {s : List Char} (hne : (splitAuthority s).1 ≠ some []) {c : Char}
    (hc : c ≠ '/') (tail : List Char) : splitAuthority (trimSlashes s ++ '/' :: c :: tail) =
      ((splitAuthority s).1, trimSlashes (splitAuthority s).2 ++ '/' :: c :: tail) := by
  by_cases h : ∃ rest, s = '/' :: '/' :: rest
  · obtain ⟨rest, rfl⟩ := h
    have hrest : rest.takeWhile (· ≠ '/') ++ rest.dropWhile (· ≠ '/') = rest :=
      List.takeWhile_append_dropWhile
    have hsome := splitAuthority_extend_some (a := rest.takeWhile (· ≠ '/'))
      (p := rest.dropWhile (· ≠ '/')) (fun he => hne (congrArg some he))
      (fun d hd => by simpa using List.mem_takeWhile_imp hd)
      (fun d _ hd => by simpa using dropWhile_head hd) (c :: tail)
    rwa [hrest] at hsome
  · rw [splitAuthority_none (fun rest hs => h ⟨rest, hs⟩)]
    refine splitAuthority_none ?_
    intro rest htext
    cases s with
    | nil =>
      cases htext
      exact hc rfl
    | cons d s =>
      by_cases hd : d = '/'
      · subst hd
        cases s with
        | nil =>
          have hnil : trimSlashes ['/'] = [] := rfl
          rw [hnil] at htext
          cases htext
          exact hc rfl
        | cons e s =>
          have he : e ≠ '/' := fun he => h ⟨s, by rw [he]⟩
          rw [show trimSlashes ('/' :: e :: s) = '/' :: e :: trimSlashes s from
            trimSlashes_append_cons ['/'] he s] at htext
          exact he (List.cons.inj (List.cons.inj htext).2).1
      · rw [trimSlashes_cons hd] at htext
        exact hd (List.cons.inj htext).1

/-- Extending a text adds no character but those of the extension. -/
theorem not_mem_extend {d : Char} {s tail : List Char} (hs : d ∉ s) (htail : d ∉ tail) :
    d ∉ trimSlashes s ++ tail := by
  rw [List.mem_append]
  rintro (h | h)
  · exact hs ((List.rdropWhile_prefix _ _).subset h)
  · exact htail h

/-- **Extending a URL behind its text.** -/
theorem splitUrl_extend {url tail : List Char} {c : Char} (hurl : '?' ∉ url ∧ '#' ∉ url)
    (htail : '?' ∉ '/' :: c :: tail ∧ '#' ∉ '/' :: c :: tail)
    (hne : (splitUrl url).authority ≠ some []) (hc : c ≠ '/') :
    splitUrl (trimSlashes url ++ '/' :: c :: tail) =
      { splitUrl url with path := trimSlashes (splitUrl url).path ++ '/' :: c :: tail } := by
  have hquery := not_mem_extend hurl.1 htail.1
  have hfragment := not_mem_extend hurl.2 htail.2
  unfold splitUrl at *
  simp only [beforeFirst_eq_self hurl.2, beforeFirst_eq_self hurl.1, beforeFirst_eq_self hfragment,
    beforeFirst_eq_self hquery, afterFirst_eq_none_iff.mpr hurl.1, afterFirst_eq_none_iff.mpr hurl.2,
    afterFirst_eq_none_iff.mpr hquery, afterFirst_eq_none_iff.mpr hfragment] at hne ⊢
  rw [splitScheme_extend, splitAuthority_extend hne hc]

end Extend

end Url
