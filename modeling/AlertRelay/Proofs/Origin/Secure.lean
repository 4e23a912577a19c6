import AlertRelay.Proofs.Origin.Address
import AlertRelay.Proofs.Origin.Cleaning
import AlertRelay.Proofs.Origin.Plain

/-!
# Secure origins

An origin is a secure context by its scheme and its host alone: any readable host under an encrypted
scheme, and under a plain one only the machine itself. User information, port and whatever stands behind
them decide nothing. The machine itself is known by its name, `localhost` or one that ends in a label
`localhost`, or by its address, however that is written.
-/
namespace AlertRelay.Origin

namespace Host

/-! ## The machine itself -/

/-- Labels with points between them. -/
def nameOf (labels : List Label) : List Char := ['.'].intercalate labels

/-- The last label of the name is `localhost`, or the address is one of the machine itself. -/
def IsLoopback : Host → Prop
  | domain labels => (Text.split '.' (nameOf labels)).getLast? = some localName
  | ipv4 address => 127 * 2 ^ 24 ≤ address ∧ address < 128 * 2 ^ 24
  | ipv6 groups => groups = [0, 0, 0, 0, 0, 0, 0, 1]

instance (host : Host) : Decidable host.IsLoopback :=
  match host with
  | domain _ => inferInstanceAs (Decidable (_ = _))
  | ipv4 _ => inferInstanceAs (Decidable (_ ∧ _))
  | ipv6 _ => inferInstanceAs (Decidable (_ = _))

theorem domain_isLoopback_iff (labels : List Label) :
    (domain labels).IsLoopback ↔
      nameOf labels = localName ∨ '.' :: localName <:+ nameOf labels := by
  have whole : '.' ∉ localName := by decide
  rw [IsLoopback, Text.getLast?_split]
  exact and_iff_right whole

theorem labels_cut {name : List Char} {ls : List Label} (read : labels? name = some ls) :
    ∃ text, ls = Text.split '.' text := by
  obtain ⟨mapped, -, read⟩ := Option.bind_eq_some_iff.mp read
  dsimp only at read
  split at read
  · cases read
  obtain ⟨shown, -, read⟩ := Option.bind_eq_some_iff.mp read
  split at read
  · cases read
  split at read
  · cases read
  split at read
  · cases read
  · cases read
    exact ⟨_, rfl⟩

theorem ofText?_domain {cs : List Char} {labels : List Label}
    (read : ofText? cs = some (domain labels)) : Text.split '.' (nameOf labels) = labels := by
  unfold ofText? at read
  split at read
  · cases read
  · split at read
    · obtain ⟨groups, -, impossible⟩ := Option.map_eq_some_iff.mp read
      cases impossible
    · cases read
  · obtain ⟨name, ls, -, cut, read⟩ := ofName?_eq_some_iff.mp read
    rw [ofLabels?] at read
    split at read
    · obtain ⟨address, -, impossible⟩ := Option.map_eq_some_iff.mp read
      cases impossible
    · cases read
      obtain ⟨text, rfl⟩ := labels_cut cut
      rw [nameOf, Text.intercalate_split]

theorem isLocal_iff {cs : List Char} {host : Host} (read : ofText? cs = some host) :
    host.isLocal = true ↔ host.IsLoopback := by
  cases host with
  | domain labels => rw [isLocal, IsLoopback, ofText?_domain read, beq_iff_eq]
  | ipv4 address => rw [isLocal, IsLoopback, Ipv4.isLoopback_iff]
  | ipv6 groups => rw [isLocal, IsLoopback, Ipv6.isLoopback, beq_iff_eq]

theorem ofLabels?_eq_ipv4_iff {ls : List Label} {a : Nat} :
    ofLabels? ls = some (ipv4 a) ↔ Ipv4.IsAddressText a ls := by
  rw [ofLabels?, ← Ipv4.parse?_eq_some_iff]
  constructor
  · intro read
    split at read
    · obtain ⟨b, parsed, same⟩ := Option.map_eq_some_iff.mp read
      cases same
      exact parsed
    · cases read
  · intro parsed
    rw [if_pos (Ipv4.isMeant_of_isAddressText (Ipv4.parse?_eq_some_iff.mp parsed)), parsed]
    rfl

/-- A host is an address exactly if the labels of its name, once escapes are read and characters are
mapped, are numbers that make up that address. -/
theorem ofText?_eq_ipv4_iff {cs : List Char} {a : Nat} :
    ofText? cs = some (ipv4 a) ↔ ∃ name parts,
      Text.Utf8.encode name = percentDecode (Text.Utf8.encode cs) ∧ labels? name = some parts ∧
        Ipv4.IsAddressText a parts := by
  have named : ofText? cs = some (ipv4 a) ↔ ofName? cs = some (ipv4 a) := by
    unfold ofText?
    split
    · have none : ofName? [] = none := by decide +kernel
      rw [none]
    next rest =>
      rw [ofName?_eq_none (isBarred_of_mem (by simp)) (List.mem_cons_self : '[' ∈ '[' :: rest)]
      split
      · simp
      · rfl
    · rfl
  simp only [named, ofName?_eq_some_iff, ofLabels?_eq_ipv4_iff]

theorem not_isMeant_of_localName {ls : List Label} (last : ls.getLast? = some localName) :
    Ipv4.isMeant ls = false := by
  obtain ⟨front, rfl⟩ := List.getLast?_eq_some_iff.mp last
  have told : Ipv4.last? (front ++ [localName]) = some localName := by
    rw [Ipv4.last?, List.reverse_append]
    rfl
  rw [Ipv4.isMeant, told]
  rfl

theorem isLocal_ofLabels?_iff {ls : List Label} :
    (∃ host, ofLabels? ls = some host ∧ host.isLocal = true) ↔
      (∃ a, Ipv4.IsAddressText a ls ∧ 127 * 2 ^ 24 ≤ a ∧ a < 128 * 2 ^ 24) ∨
        ls.getLast? = some localName := by
  constructor
  · rintro ⟨host, read, isLocal⟩
    rw [ofLabels?] at read
    split at read
    · obtain ⟨a, parsed, rfl⟩ := Option.map_eq_some_iff.mp read
      exact .inl ⟨a, Ipv4.parse?_eq_some_iff.mp parsed, Ipv4.isLoopback_iff.mp isLocal⟩
    · cases read
      exact .inr (beq_iff_eq.mp isLocal)
  · rintro (⟨a, address, range⟩ | last)
    · exact ⟨ipv4 a, ofLabels?_eq_ipv4_iff.mpr address, Ipv4.isLoopback_iff.mpr range⟩
    · refine ⟨domain ls, ?_, beq_iff_eq.mpr last⟩
      rw [ofLabels?, not_isMeant_of_localName last]
      rfl

end Host

/-! ## Scheme and host decide -/

theorem Site.inside_of_allowed {c : Char} (allowed : isForbidden c = false) :
    0x20 < c.toNat ∧ endsAuthority c = false ∧ c ≠ '@' := by
  rw [← Bool.not_eq_true, isForbidden_iff] at allowed
  simp only [List.mem_cons, List.not_mem_nil, or_false, not_or, Nat.not_le] at allowed
  simp [endsAuthority, isSlash, allowed]

theorem isSecure_eq_true_iff {text : String} :
    isSecure text = true ↔ ∃ site, Site.parse? text.toList = some site ∧ site.isSecure = true := by
  rw [isSecure, Option.any_eq_true]

theorem Site.isSecure_iff {cs : List Char} {site : Site} (read : parse? cs = some site) :
    site.isSecure = true ↔ site.scheme.isEncrypted = true ∨ site.host.IsLoopback := by
  obtain ⟨s, -, -, told⟩ := exists_spelling read
  rw [isSecure, Bool.or_eq_true, Host.isLocal_iff told]

/-- A plain site is secure exactly if its host is the machine itself. -/
theorem isSecure_of_plain_iff {text : String} {site : Site}
    (read : Site.parse? text.toList = some site) (plain : site.scheme = .http ∨ site.scheme = .ws) :
    isSecure text = true ↔ site.host.IsLoopback := by
  have unencrypted : ¬ site.scheme.isEncrypted = true := by
    rcases plain with scheme | scheme
    all_goals rw [scheme]; decide
  rw [isSecure, read, Option.any_some, Site.isSecure_iff read, or_iff_right unencrypted]

/-- A text is secure exactly if it consists of the parts of a site, the host among them can be read, and
its scheme is an encrypted one or its host the machine itself. -/
theorem isSecure_iff_exists_spelling {text : String} :
    isSecure text = true ↔ ∃ (s : Site.Spelling) (host : Host), Site.clean text.toList = s.text ∧
      Host.ofText? s.host = some host ∧ (s.scheme.isEncrypted = true ∨ host.IsLoopback) := by
  rw [isSecure_eq_true_iff]
  constructor
  · rintro ⟨site, read, secure⟩
    obtain ⟨s, parts, scheme, told⟩ := Site.exists_spelling read
    rw [Site.isSecure_iff read, ← scheme] at secure
    exact ⟨s, site.host, parts, told, secure⟩
  · rintro ⟨s, host, parts, told, secure⟩
    have read : Site.parse? text.toList = some ⟨s.scheme, host⟩ :=
      Site.parse?_eq_some_iff.mpr ⟨s, parts, rfl, told⟩
    exact ⟨_, read, (Site.isSecure_iff read).mpr secure⟩

theorem isSecure_of_other_scheme {text : String} {name rest : List Char}
    (colon : Site.splitScheme (Site.clean text.toList) = some (name, rest))
    (other : ∀ s : Scheme, name.map Char.toLower ≠ s.name) : isSecure text = false := by
  have unknown : Scheme.ofName? name = none :=
    Option.eq_none_iff_forall_ne_some.mpr fun s known => other s (Scheme.ofName?_eq_some_iff.mp known)
  rw [isSecure, Site.parse?, colon, Option.bind_some]
  dsimp only
  rw [unknown]
  rfl

theorem isSecure_of_spelling (s : Site.Spelling) (visible : ∀ c ∈ s.host, Site.isEdge c = false) :
    isSecure (String.ofList s.text) =
      (Host.ofText? s.host).any fun host => s.scheme.isEncrypted || host.isLocal := by
  rw [isSecure, String.toList_ofList, s.parse?_text visible, Option.any_map]
  rfl

section
open Site (endsAuthority ColonsBracketed IsPortNumber)
variable {scheme : Scheme} {name user host port tail : List Char}

/-- A scheme and a host, and nothing else. -/
def bareSpelling (spelled : name.map Char.toLower = scheme.name) (filled : host ≠ [])
    (inside : ∀ c ∈ host, 0x20 < c.toNat ∧ endsAuthority c = false ∧ c ≠ '@')
    (bracketed : ColonsBracketed false host) : Site.Spelling where
  scheme := scheme
  name := name
  slashes := ['/', '/']
  user := []
  host := host
  port := []
  tail := []
  name_spelled := spelled
  slashes_only := forall_mem_of_all rfl
  user_inside := by simp
  user_ends := .inl rfl
  host_filled := filled
  host_inside := fun c among => (inside c among).2.1
  host_last := fun among => (inside '@' among).2.2 rfl
  host_bracketed := bracketed
  port_number := .inl rfl
  tail_behind := by simp

variable (spelled : name.map Char.toLower = scheme.name) (filled : host ≠ [])
include spelled filled

section
variable (inside : ∀ c ∈ host, 0x20 < c.toNat ∧ endsAuthority c = false ∧ c ≠ '@')
  (bracketed : ColonsBracketed false host)
include inside bracketed

theorem isSecure_bare : isSecure (String.ofList (name ++ [':', '/', '/'] ++ host)) =
    (Host.ofText? host).any fun host => scheme.isEncrypted || host.isLocal := by
  let bare := bareSpelling spelled filled inside bracketed
  have visible : ∀ c ∈ host, Site.isEdge c = false := fun c among => by
    simpa [Site.isEdge] using (inside c among).1
  have text : name ++ [':', '/', '/'] ++ host = bare.text := by
    simp [bare, bareSpelling, Site.Spelling.text]
  rw [text, isSecure_of_spelling bare visible]
  rfl

/-- User information, port and tail can be left out. -/
theorem isSecure_dressed (userInside : ∀ c ∈ user, endsAuthority c = false)
    (number : IsPortNumber port) (behind : ∀ c, tail.head? = some c → endsAuthority c = true) :
    isSecure (String.ofList
        (name ++ [':', '/', '/'] ++ user ++ ['@'] ++ host ++ [':'] ++ port ++ tail)) =
      isSecure (String.ofList (name ++ [':', '/', '/'] ++ host)) := by
  let whole : Site.Spelling :=
    { bareSpelling spelled filled inside bracketed with
      user := user ++ ['@']
      port := ':' :: port
      tail := tail
      user_inside := by
        intro c among
        rcases List.mem_append.mp among with before | last
        · exact userInside c before
        · rw [List.mem_singleton.mp last]
          rfl
      user_ends := .inr List.getLast?_concat
      port_number := .inr ⟨port, rfl, number⟩
      tail_behind := behind }
  have visible : ∀ c ∈ host, Site.isEdge c = false := fun c among => by
    simpa [Site.isEdge] using (inside c among).1
  have text : name ++ [':', '/', '/'] ++ user ++ ['@'] ++ host ++ [':'] ++ port ++ tail =
      whole.text := by
    simp [whole, bareSpelling, Site.Spelling.text]
  rw [text, isSecure_of_spelling whole visible, isSecure_bare spelled filled inside bracketed]
  rfl

end

/-- A plain name under a plain scheme is secure exactly if its labels are the numbers of an address of
the machine itself, or the last of them is `localhost` in letters of either case. -/
theorem isSecure_of_plain_name (unencrypted : scheme.isEncrypted = false) (plain : IsPlain host)
    (unencoded : ∀ l ∈ Text.split '.' (host.map Char.toLower), Label.isEncoded l = false) :
    isSecure (String.ofList (name ++ [':', '/', '/'] ++ host)) = true ↔
      (∃ a, Ipv4.IsAddressText a (Text.split '.' (host.map Char.toLower)) ∧
        127 * 2 ^ 24 ≤ a ∧ a < 128 * 2 ^ 24) ∨
      (Text.split '.' (host.map Char.toLower)).getLast? = some localName := by
  have inside : ∀ c ∈ host, 0x20 < c.toNat ∧ endsAuthority c = false ∧ c ≠ '@' := fun c among =>
    Site.inside_of_allowed (plain c among).2
  have absent : ':' ∉ host := fun among => absurd (plain ':' among).2 (by decide +kernel)
  rw [isSecure_bare spelled filled inside (Site.colonsBracketed_of_not_mem absent),
    Host.ofText?_of_plain plain filled unencoded, unencrypted]
  simp only [Bool.false_or, Option.any_eq_true]
  exact Host.isLocal_ofLabels?_iff

end

/-- Whether an origin is a secure context depends on its scheme and its host alone. User information, port
and tail never matter; a plain site is secure exactly if its host is the machine itself, an address
however it is written and a name by its last label; and a text that is no site, or one under another
scheme, is not secure. -/
theorem secure_by_scheme_and_host :
    (∀ (scheme : Scheme) (name user host port tail : List Char),
      name.map Char.toLower = scheme.name → (∀ c ∈ user, Site.endsAuthority c = false) →
      host ≠ [] → (∀ c ∈ host, 0x20 < c.toNat ∧ Site.endsAuthority c = false ∧ c ≠ '@') →
      Site.ColonsBracketed false host → Site.IsPortNumber port →
      (∀ c, tail.head? = some c → Site.endsAuthority c = true) →
      isSecure (String.ofList
          (name ++ [':', '/', '/'] ++ user ++ ['@'] ++ host ++ [':'] ++ port ++ tail)) =
        isSecure (String.ofList (name ++ [':', '/', '/'] ++ host))) ∧
    (∀ (text : String) (site : Site), Site.parse? text.toList = some site →
      site.scheme = .http ∨ site.scheme = .ws → (isSecure text = true ↔ site.host.IsLoopback)) ∧
    (∀ text : String, Site.parse? text.toList = none → isSecure text = false) ∧
    (∀ (text : String) (name rest : List Char),
      Site.splitScheme (Site.clean text.toList) = some (name, rest) →
      (∀ s : Scheme, name.map Char.toLower ≠ s.name) → isSecure text = false) ∧
    (∀ text : String, isSecure text = true ↔
      ∃ (s : Site.Spelling) (host : Host), Site.clean text.toList = s.text ∧
        Host.ofText? s.host = some host ∧ (s.scheme.isEncrypted = true ∨ host.IsLoopback)) ∧
    (∀ labels, (Host.domain labels).IsLoopback ↔
      Host.nameOf labels = localName ∨ '.' :: localName <:+ Host.nameOf labels) ∧
    (∀ (host : List Char) (address : Nat), Host.ofText? host = some (.ipv4 address) ↔
      ∃ name parts, Text.Utf8.encode name = percentDecode (Text.Utf8.encode host) ∧
        labels? name = some parts ∧ Ipv4.IsAddressText address parts) ∧
    (∀ (scheme : Scheme) (name host : List Char), name.map Char.toLower = scheme.name →
      scheme.isEncrypted = false → host ≠ [] → IsPlain host →
      (∀ l ∈ Text.split '.' (host.map Char.toLower), Label.isEncoded l = false) →
      (isSecure (String.ofList (name ++ [':', '/', '/'] ++ host)) = true ↔
        (∃ address, Ipv4.IsAddressText address (Text.split '.' (host.map Char.toLower)) ∧
          127 * 2 ^ 24 ≤ address ∧ address < 128 * 2 ^ 24) ∨
        (Text.split '.' (host.map Char.toLower)).getLast? = some localName)) := by
  refine ⟨?_, fun _ _ => isSecure_of_plain_iff, ?_, fun _ _ _ => isSecure_of_other_scheme,
    fun _ => isSecure_iff_exists_spelling, Host.domain_isLoopback_iff,
    fun _ _ => Host.ofText?_eq_ipv4_iff, ?_⟩
  · intro scheme name user host port tail spelled userInside filled inside bracketed number behind
    exact isSecure_dressed spelled filled inside bracketed userInside number behind
  · intro text unread
    rw [isSecure, unread]
    rfl
  · intro scheme name host spelled unencrypted filled plain unencoded
    exact isSecure_of_plain_name spelled filled unencrypted plain unencoded

/-- Credentials and a path that look like the machine itself do not make another host secure; an address
of the machine in hexadecimal is one, and so is its name in capitals behind credentials. -/
theorem look_alikes_judged_by_host :
    isSecure "Http://localhost:[@device.lan:0080/@localhost" = isSecure "Http://device.lan" ∧
      isSecure "http://127.0.0.1.example" = false ∧
      isSecure "ws://user@0X7f.1:/" = true ∧
      isSecure "http://PANEL.Localhost" = true ∧
      isSecure "localhost" = false ∧
      isSecure "ftp://localhost" = false := by
  obtain ⟨parts, hosts, unread, other, -, -, -, plain⟩ := secure_by_scheme_and_host
  refine ⟨?_, ?_, ?_, ?_, ?_, ?_⟩
  · have slash : ∀ c, "/@localhost".toList.head? = some c → Site.endsAuthority c = true := by
      intro c first
      have front : "/@localhost".toList.head? = some '/' := by decide +kernel
      cases front.symm.trans first
      rfl
    exact parts .http "Http".toList "localhost:[".toList "device.lan".toList "0080".toList
      "/@localhost".toList (by decide +kernel) (forall_mem_of_all (by decide +kernel))
      (by decide +kernel) (forall_mem_of_all (by decide +kernel))
      (Site.colonsBracketed_of_not_mem (by decide +kernel))
      ⟨forall_mem_of_all (by decide +kernel), by decide +kernel⟩ slash
  · have read : Site.parse? "http://127.0.0.1.example".toList =
        some ⟨.http, .domain [['1', '2', '7'], ['0'], ['0'], ['1'],
          ['e', 'x', 'a', 'm', 'p', 'l', 'e']]⟩ := by decide +kernel
    exact eq_false_of_ne_true fun secure => absurd ((hosts _ _ read (.inl rfl)).mp secure) (by decide)
  · have read : Site.parse? "ws://user@0X7f.1:/".toList = some ⟨.ws, .ipv4 0x7F000001⟩ := by
      decide +kernel
    exact (hosts _ _ read (.inr rfl)).mpr (by decide)
  · exact (plain .http "http".toList "PANEL.Localhost".toList (by decide +kernel) (by decide)
      (by decide +kernel) (forall_mem_of_all (by decide +kernel))
      (forall_mem_of_all (by decide +kernel))).mpr (.inr (by decide +kernel))
  · exact unread "localhost" (by decide +kernel)
  · exact other "ftp://localhost" "ftp".toList "//localhost".toList (by decide +kernel)
      (by intro s; cases s; all_goals decide +kernel)

end AlertRelay.Origin
