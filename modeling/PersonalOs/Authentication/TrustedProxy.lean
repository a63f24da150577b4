import PersonalOs.Basis.IpAddresses
import PersonalOs.Basis.Json
import PersonalOs.Basis.Fallible

/-!
# The client address behind trusted proxies

The address a throttle bucket is derived from: the socket peer, or, where the peer is a trusted
proxy, the rightmost address of the forwarded chain that no trusted proxy vouches for. A header is
used only as a whole, so what a client writes before that address never names the address, and yet
it decides between the two.
-/

namespace PersonalOs.Authentication.TrustedProxy

open IpAddresses

/-! ## The resolver -/

/-- `str.isspace`, for one character. -/
def isSpace (c : Char) : Bool :=
  c.toNat ∈ [0x20, 0x85, 0xA0, 0x1680, 0x2028, 0x2029, 0x202F, 0x205F, 0x3000] ||
    (9 ≤ c.toNat && c.toNat ≤ 13) || (0x1C ≤ c.toNat && c.toNat ≤ 0x1F) ||
    (0x2000 ≤ c.toNat && c.toNat ≤ 0x200A)

/-- `str.strip`. -/
def strip (t : Text) : Text := ((t.dropWhile isSpace).reverse.dropWhile isSpace).reverse

def maximumForwardedHops : Nat := 8

/-- `_parse_trusted_networks`: malformed entries are dropped. -/
def parseTrustedNetworks (trustedProxyCidrs : List Text) : List Network :=
  trustedProxyCidrs.filterMap ipNetwork

def parseHop (token : Text) : Option Address := ipAddress (strip token)

def parseForwardedHops (forwardedFor : Text) : Option (List Address) := do
  let hops ← (forwardedFor.splitOn ',').mapM parseHop
  if hops = [] ∨ maximumForwardedHops < hops.length then none else some hops

def vouchedFor (trustedNetworks : List Network) (address : Address) : Bool :=
  trustedNetworks.any fun network => network.contains address

def isTrustedAddress (address : Text) (trustedNetworks : List Network) : Bool :=
  match ipAddress address with
  | none => false
  | some parsed => vouchedFor trustedNetworks parsed

def resolveClientAddress (socketPeer forwardedFor : Text) (trustedProxyCidrs : List Text) : Text :=
  if trustedProxyCidrs = [] then socketPeer
  else
    let trustedNetworks := parseTrustedNetworks trustedProxyCidrs
    if trustedNetworks.isEmpty || !isTrustedAddress socketPeer trustedNetworks then socketPeer
    else
      match parseForwardedHops forwardedFor with
      | none => socketPeer
      | some forwardedHops =>
        match forwardedHops.reverse.find? fun hop => !vouchedFor trustedNetworks hop with
        | some hop => hop.text
        | none => socketPeer

/-! ## Headers that end alike -/

/-- A header of at most so many tokens, all of them addresses. -/
def Usable (header : Text) : Prop :=
  (header.splitOn ',').length ≤ maximumForwardedHops ∧
    ∀ token ∈ header.splitOn ',', (parseHop token).isSome = true

instance (header : Text) : Decidable (Usable header) := inferInstanceAs (Decidable (_ ∧ _))

structure RightmostUntrusted (trustedNetworks : List Network) (ending : Text) (hop : Address) :
    Prop where
  tokens : ∃ token vouched hops, ending.splitOn ',' = token :: vouched ∧
    parseHop token = some hop ∧ vouched.mapM parseHop = some hops ∧
    ∀ address ∈ hops, vouchedFor trustedNetworks address = true
  untrusted : vouchedFor trustedNetworks hop = false

/-- The header ends in the text, whatever a client has set before it. -/
def EndsIn (header ending : Text) : Prop :=
  header = ending ∨ ∃ before, header = before ++ ',' :: ending

section Headers

variable {trustedNetworks : List Network} {trustedProxyCidrs : List Text}
  {socketPeer header header' ending : Text} {hop : Address}

theorem parseForwardedHops_isSome : (parseForwardedHops header).isSome = true ↔ Usable header := by
  have ht : header.splitOn ',' ≠ [] := List.splitOn_ne_nil ',' header
  unfold parseForwardedHops Usable
  cases hp : (header.splitOn ',').mapM parseHop with
  | none =>
    refine iff_of_false (by simp) fun ⟨_, ha⟩ => ?_
    obtain ⟨h, all⟩ := mapM_some_of_forall fun t ham =>
      Option.isSome_iff_exists.mp (ha t ham)
    exact nomatch hp.symm.trans all
  | some h =>
    have he := forall₂_of_mapM_some hp
    have hn : h ≠ [] := by
      rintro rfl
      exact ht (List.forall₂_nil_right_iff.mp he)
    have ha : ∀ t ∈ header.splitOn ',', (parseHop t).isSome = true := by
      intro t ham
      obtain ⟨hop, -, hh⟩ := (mem_of_mapM_some hp).2 t ham
      exact Option.isSome_iff_exists.mpr ⟨hop, hh⟩
    rw [he.length_eq]
    by_cases hl : maximumForwardedHops < h.length
    · simp [hl]
    · simpa [hn, hl, Nat.le_of_not_lt hl] using ha

theorem splitOn_endsIn (he : EndsIn header ending) :
    ∃ f, header.splitOn ',' = f ++ ending.splitOn ',' := by
  rcases he with rfl | ⟨b, rfl⟩
  · exact ⟨[], rfl⟩
  · exact ⟨b.splitOn ',', List.splitOn_append_cons_self b ending⟩

/-- A usable header has the hops its proxies wrote behind the rightmost untrusted address. -/
theorem parseForwardedHops_endsIn (hr : RightmostUntrusted trustedNetworks ending hop)
    (he : EndsIn header ending) {fh : List Address}
    (hu : parseForwardedHops header = some fh) :
    ∃ f v, fh = f ++ hop :: v ∧ ∀ a ∈ v, vouchedFor trustedNetworks a = true := by
  obtain ⟨t, v, h, hto, hh, hp, ht⟩ := hr.tokens
  obtain ⟨f, hs⟩ := splitOn_endsIn he
  unfold parseForwardedHops at hu
  rw [hs, hto, List.mapM_append, List.mapM_cons, hh, hp] at hu
  cases hf : f.mapM parseHop with
  | none => simp [hf] at hu
  | some fh' =>
    simp only [hf, Option.pure_def, Option.bind_eq_bind, Option.bind_some] at hu
    split at hu
    · cases hu
    · cases hu
      exact ⟨fh', h, rfl, ht⟩

theorem find_rightmost {f v : List Address} (hu : vouchedFor trustedNetworks hop = false)
    (ht : ∀ a ∈ v, vouchedFor trustedNetworks a = true) :
    (f ++ hop :: v).reverse.find? (fun hop => !vouchedFor trustedNetworks hop) = some hop := by
  have hp : v.reverse.find? (fun hop => !vouchedFor trustedNetworks hop) = none := by
    rw [List.find?_eq_none]
    intro a ha
    simp [ht a (List.mem_reverse.mp ha)]
  rw [List.reverse_append, List.reverse_cons, List.append_assoc, List.find?_append, hp]
  simp [hu]

theorem isEmpty_of_trusted (ht : isTrustedAddress socketPeer trustedNetworks = true) :
    trustedNetworks.isEmpty = false := by
  cases trustedNetworks with
  | nil =>
    unfold isTrustedAddress at ht
    split at ht
    · cases ht
    · simp [vouchedFor] at ht
  | cons n r => rfl

/-- What a header that ends in the proxies' text resolves to for a trusted peer. -/
theorem resolveClientAddress_vouched
    (ht : isTrustedAddress socketPeer (parseTrustedNetworks trustedProxyCidrs) = true)
    (hr : RightmostUntrusted (parseTrustedNetworks trustedProxyCidrs) ending hop)
    (he : EndsIn header ending) :
    resolveClientAddress socketPeer header trustedProxyCidrs =
      if Usable header then hop.text else socketPeer := by
  simp only [← parseForwardedHops_isSome]
  have hc : trustedProxyCidrs ≠ [] := by
    rintro rfl
    exact nomatch (isEmpty_of_trusted ht).symm.trans rfl
  unfold resolveClientAddress
  simp only [hc, isEmpty_of_trusted ht, ht, if_false, Bool.not_true,
    Bool.or_false, Bool.false_eq_true]
  cases hu : parseForwardedHops header with
  | none => rfl
  | some fh =>
    obtain ⟨f, v, rfl, hp⟩ := parseForwardedHops_endsIn hr he hu
    simp only [find_rightmost hr.untrusted hp, Option.isSome_some, if_true]

theorem resolveClientAddress_untrusted (socketPeer header : Text) (trustedProxyCidrs : List Text)
    (hu : isTrustedAddress socketPeer (parseTrustedNetworks trustedProxyCidrs) = false) :
    resolveClientAddress socketPeer header trustedProxyCidrs = socketPeer := by
  unfold resolveClientAddress
  simp [hu]

end Headers

/-! ## Two headers -/

/-- What a client writes before the address its proxies saw names no other address: each header
resolves to that one, or to the peer where the header cannot be used as a whole, and for a peer
that is no trusted proxy no header matters. -/
theorem forged_header_names_no_address (trustedProxyCidrs : List Text) (socketPeer : Text) :
    (isTrustedAddress socketPeer (parseTrustedNetworks trustedProxyCidrs) = true →
      ∀ ending hop, RightmostUntrusted (parseTrustedNetworks trustedProxyCidrs) ending hop →
        ∀ header header', EndsIn header ending → EndsIn header' ending →
          (resolveClientAddress socketPeer header trustedProxyCidrs =
            if Usable header then hop.text else socketPeer) ∧
          ((Usable header ↔ Usable header') →
            resolveClientAddress socketPeer header trustedProxyCidrs =
              resolveClientAddress socketPeer header' trustedProxyCidrs)) ∧
    (isTrustedAddress socketPeer (parseTrustedNetworks trustedProxyCidrs) = false →
      ∀ header header', resolveClientAddress socketPeer header trustedProxyCidrs =
        resolveClientAddress socketPeer header' trustedProxyCidrs) := by
  constructor
  · intro ht ending hop hr header header' he he'
    have hre := resolveClientAddress_vouched ht hr he
    refine ⟨hre, fun ha => ?_⟩
    rw [hre, resolveClientAddress_vouched ht hr he']
    simp only [ha]
  · intro hu header header'
    rw [resolveClientAddress_untrusted socketPeer header trustedProxyCidrs hu,
      resolveClientAddress_untrusted socketPeer header' trustedProxyCidrs hu]

/-! ### A client drops its address -/

def sampleCidrs : List Text := ["192.0.2.0/24".toList]

def samplePeer : Text := "192.0.2.10".toList

/-- The proxies saw `198.51.100.7`. -/
def sampleEnding : Text := "198.51.100.7, 192.0.2.11".toList

theorem sample_rightmost : RightmostUntrusted (parseTrustedNetworks sampleCidrs) sampleEnding
    (.v4 0xC6336407) where
  tokens := ⟨"198.51.100.7".toList, [" 192.0.2.11".toList], [.v4 0xC000020B], by decide +kernel⟩
  untrusted := by decide +kernel

theorem sample_endsIn (b : Text) : EndsIn (b ++ ',' :: sampleEnding) sampleEnding := .inr ⟨b, rfl⟩

/-- A client that sends a word gets the bucket of the proxy. -/
theorem forged_header_drops_address : ¬ ∀ trustedProxyCidrs socketPeer ending hop header header',
    isTrustedAddress socketPeer (parseTrustedNetworks trustedProxyCidrs) = true →
    RightmostUntrusted (parseTrustedNetworks trustedProxyCidrs) ending hop →
    EndsIn header ending → EndsIn header' ending →
    resolveClientAddress socketPeer header trustedProxyCidrs =
        resolveClientAddress socketPeer header' trustedProxyCidrs ∧
      resolveClientAddress socketPeer header trustedProxyCidrs = hop.text := by
  intro hc
  have he := (hc sampleCidrs samplePeer sampleEnding (.v4 0xC6336407)
    ("unknown".toList ++ ',' :: sampleEnding) sampleEnding (by decide +kernel) sample_rightmost
    (sample_endsIn _) (.inl rfl)).2
  revert he
  decide +kernel

/-- An address a client makes up leaves the result alone. -/
theorem forged_header_names_no_address_sample :
    resolveClientAddress samplePeer ("203.0.113.5".toList ++ ',' :: sampleEnding) sampleCidrs =
      "198.51.100.7".toList := by
  have hr := ((forged_header_names_no_address sampleCidrs samplePeer).1 (by decide +kernel)
    sampleEnding _ sample_rightmost ("203.0.113.5".toList ++ ',' :: sampleEnding) sampleEnding
    (sample_endsIn _) (.inl rfl)).1
  rw [hr]
  decide +kernel

end PersonalOs.Authentication.TrustedProxy
