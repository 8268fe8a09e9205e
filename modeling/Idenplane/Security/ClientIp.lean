import Idenplane.Security.Cidr

/-! # The address of a client

`resolveClientIp` honours `X-Forwarded-For` for the peers that `TRUSTED_PROXIES` lists.  It reads
the address of the peer as it lists one, so that no IPv4-mapped address is in any block.
-/

namespace Idenplane.Security

namespace TrustedProxies

inductive Config where
  | unset
  | all
  | list (entries : List String)

def parseTrustedProxies : Option String → Config
  | none => .unset
  | some raw =>
    if Text.trim raw = "" then .unset
    else if Text.trim raw = "*" then .all
    else .list (((Text.split ',' raw.toList).map fun s => Text.trim (String.ofList s)).filter (· ≠ ""))

def Config.entries : Config → List String
  | .list entries => entries
  | _ => []

/-- The address of the socket and the header `x-forwarded-for`. -/
structure Request where
  (remoteAddress xff : Option String)

def Request.socketIp (request : Request) : String := request.remoteAddress.getD "unknown"

/-- The leftmost address of the header. -/
def leftmost (xff socketIp : String) : String :=
  let clientIp := Text.trim (String.ofList ((Text.split ',' xff.toList).headD []))
  if clientIp = "" then socketIp else clientIp

def resolveClientIp (raw : Option String) (request : Request) : String :=
  let config := parseTrustedProxies raw
  match config, request.xff.filter (· ≠ "") with
  | .unset, _ => request.socketIp
  | _, none => request.socketIp
  | .all, some xff => leftmost xff request.socketIp
  | .list entries, some xff =>
    if entries.any (ipInCidr request.socketIp ·) then leftmost xff request.socketIp
    else request.socketIp

end TrustedProxies

open TrustedProxies Numerals
open Authorization (parseDecimal)

/-- The entry names the address, or a block that the address is in. -/
def Lists (e : String) (q : Quad) : Prop :=
  (∃ host : Quad, e = String.ofList host.text ∧ q.value = host.value) ∨
    ∃ range : Cidr, e = String.ofList range.text ∧
      InBlock 32 range.network.value range.prefixLength q.value

def Configured (raw : Option String) (q : Quad) : Prop :=
  ∃ e ∈ (parseTrustedProxies raw).entries, Lists e q

def mapped (q : Quad) : String := String.ofList ("::ffff:".toList ++ q.text)

/-- The address of an IPv4 peer, plain or as a socket for both versions reports it. -/
def Writes (socketIp : String) (q : Quad) : Prop :=
  socketIp = String.ofList q.text ∨ socketIp = mapped q

/-- A peer that is not configured has no say, and the header of one that is counts. -/
structure Unforgeable (raw : Option String) (socketIp : String) : Prop where
  ignored : (∀ q, Writes socketIp q → ¬Configured raw q) → ∀ request request' : Request,
    request.socketIp = socketIp → request'.socketIp = socketIp →
      resolveClientIp raw request = resolveClientIp raw request'
  honoured : ∀ q, Writes socketIp q → Configured raw q → ∀ (request : Request) xff,
    request.socketIp = socketIp → request.xff = some xff → xff ≠ "" →
      resolveClientIp raw request = leftmost xff socketIp

variable {raw : Option String} {socketIp e : String} {q : Quad}

/-- A peer is misread when an entry is read as a block around it although it is not configured, or
when it is read as an address in the block of an entry although it is no dotted quad. -/
inductive Misread (raw : Option String) : String → Prop
  | entry {e : String} {base len : Nat} (q : Quad) (out : ¬Configured raw q)
      (mem : e ∈ (parseTrustedProxies raw).entries) (block : Reads e base len)
      (inBlock : InBlock 32 base len q.value) : Misread raw (String.ofList q.text)
  | peer {socketIp e : String} {n own base len : Nat}
      (odd : ∀ q : Quad, socketIp ≠ String.ofList q.text) (address : Reads socketIp n own)
      (mem : e ∈ (parseTrustedProxies raw).entries) (block : Reads e base len)
      (inBlock : InBlock 32 base len (leading 32 own n)) : Misread raw socketIp

theorem ipInCidr_of_lists (lists : Lists e q) : ipInCidr (String.ofList q.text) e = true := by
  rcases lists with ⟨host, named, same⟩ | ⟨range, named, inBlock⟩
  · rw [named]
    exact (trustedProxies_host q host).mpr same
  · rw [named]
    exact (trustedProxies_quad q range).mpr inBlock

theorem ipInCidr_unread {front : List Char} (slash : '/' ∉ front) (dot : '.' ∉ front)
    (unread : decimalOctet (front ++ q.a.text) = none) :
    ipInCidr (String.ofList (front ++ q.text)) e = false := by
  have noSlash : '/' ∉ front ++ q.text := by simp [slash, q.no_slash]
  have noDot : '.' ∉ front ++ q.a.text := by
    have plain : '.' ∉ q.a.text := fun mem =>
      absurd (all_eq_true.mp q.a.all_isDigit '.' mem) (by decide)
    simp [dot, plain]
  apply eq_false_iff.mpr
  intro ok
  obtain ⟨n, base, len, ⟨a, b, c, d, reads, -⟩, -⟩ := readAs_of_ipInCidr ok
  rw [toList_ofList, Text.split_of_not_mem noSlash, List.headD_cons, Quad.text,
    ← append_assoc, Text.split_append noDot, map_cons, unread] at reads
  cases (cons.inj reads).1

theorem ipInCidr_mapped (q : Quad) (e : String) : ipInCidr (mapped q) e = false :=
  ipInCidr_unread (by decide) (by decide) rfl

theorem leftmost_ne (socketIp : String) : leftmost "x" socketIp ≠ leftmost "y" socketIp := by
  simp [leftmost, Text.trim, Text.split, Text.isSpace]

/-- Every value but `*`. -/
theorem resolve_eq (mem : raw.map Text.trim ≠ some "*") (req : Request) : resolveClientIp raw req =
      if (parseTrustedProxies raw).entries.any (ipInCidr req.socketIp ·) then
        (req.xff.filter (· ≠ "")).elim req.socketIp (leftmost · req.socketIp)
      else req.socketIp := by
  unfold resolveClientIp
  cases config : parseTrustedProxies raw with
  | unset => rfl
  | all =>
    cases raw with
    | none => cases config
    | some raw =>
      simp only [parseTrustedProxies] at config
      split at config
      · cases config
      · split at config
        case isTrue star => exact absurd (congrArg some star) mem
        case isFalse => cases config
  | list es =>
    cases req.xff.filter (· ≠ "") with
    | none => simp
    | some xff => simp [Config.entries]

theorem Misread.covered (misread : Misread raw socketIp) :
    (parseTrustedProxies raw).entries.any (ipInCidr socketIp ·) = true := by
  cases misread with
  | entry q out mem block inBlock =>
    refine any_eq_true.mpr ⟨_, mem, trustedProxies_iff.mpr ⟨_, _, _, _, q.reads, block, ?_⟩⟩
    rw [leading_self]
    exact inBlock
  | peer odd address mem block inBlock =>
    exact any_eq_true.mpr ⟨_, mem, trustedProxies_iff.mpr ⟨_, _, _, _, address, block, inBlock⟩⟩

theorem Configured.of_text {q q' : Quad} (same : String.ofList q.text = String.ofList q'.text)
    (configured : Configured raw q) : Configured raw q' := by
  have value : q.value = q'.value := (Quad.reads_iff.mp (same ▸ q.reads)).1
  obtain ⟨e, mem, host | range⟩ := configured
  · rw [value] at host
    exact ⟨e, mem, .inl host⟩
  · rw [value] at range
    exact ⟨e, mem, .inr range⟩

theorem Misread.out (misread : Misread raw socketIp) (writes : Writes socketIp q) :
    ¬Configured raw q := by
  rcases writes with plain | rfl
  · cases misread with
    | entry q' out _ _ _ => exact fun configured => out (configured.of_text plain.symm)
    | peer odd _ _ _ _ => exact absurd plain (odd q)
  · have covered := misread.covered
    simp [ipInCidr_mapped] at covered

/-- Whoever is covered is configured or misread. -/
theorem misread_of_covered
    (covered : (parseTrustedProxies raw).entries.any (ipInCidr socketIp ·) = true)
    (out : ∀ q, Writes socketIp q → ¬Configured raw q) : Misread raw socketIp := by
  obtain ⟨e, mem, covers⟩ := any_eq_true.mp covered
  obtain ⟨n, own, base, len, address, block, inBlock⟩ := trustedProxies_iff.mp covers
  by_cases plain : ∃ q : Quad, socketIp = String.ofList q.text
  · obtain ⟨q, rfl⟩ := plain
    obtain ⟨rfl, rfl⟩ := Quad.reads_iff.mp address
    rw [leading_self] at inBlock
    exact .entry q (out q (.inl rfl)) mem block inBlock
  · exact .peer (not_exists.mp plain) address mem block inBlock

/-- Peers are told apart as the list says exactly when none is a mapped address that the list
covers, and none is misread. -/
theorem unforgeable_iff (listed : raw.map Text.trim ≠ some "*") : Unforgeable raw socketIp ↔
    (∀ q, socketIp = mapped q → ¬Configured raw q) ∧ ¬Misread raw socketIp := by
  constructor
  · intro unforgeable
    constructor
    · rintro q rfl configured
      have honoured := unforgeable.honoured q (.inr rfl) configured
      have nobody : (parseTrustedProxies raw).entries.any (ipInCidr (mapped q) ·) = false := by
        simp [ipInCidr_mapped]
      have ans (xff : String) : resolveClientIp raw ⟨some (mapped q), some xff⟩ = mapped q :=
        (resolve_eq listed _).trans (if_neg (by simp [Request.socketIp, nobody]))
      apply leftmost_ne (mapped q)
      rw [← honoured ⟨some (mapped q), some "x"⟩ "x" rfl rfl (by decide), ans,
        ← honoured ⟨some (mapped q), some "y"⟩ "y" rfl rfl (by decide), ans]
    · intro misread
      have same := unforgeable.ignored (fun q => misread.out) ⟨some socketIp, some "x"⟩
        ⟨some socketIp, some "y"⟩ rfl rfl
      have ans (req : Request) (here : req.socketIp = socketIp) : resolveClientIp raw req =
            (req.xff.filter (· ≠ "")).elim socketIp (leftmost · socketIp) := by
        rw [resolve_eq listed, here, if_pos misread.covered]
      rw [ans _ rfl, ans _ rfl] at same
      exact leftmost_ne socketIp same
  · rintro ⟨unmapped, read⟩
    constructor
    · intro out req req' same same'
      have nobody : (parseTrustedProxies raw).entries.any (ipInCidr socketIp ·) = false :=
        eq_false_iff.mpr fun covered => read (misread_of_covered covered out)
      rw [resolve_eq listed, resolve_eq listed, same, same', nobody]
      rfl
    · rintro q (rfl | rfl) configured req xff same given some_
      · obtain ⟨e, mem, lists⟩ := configured
        have covered : (parseTrustedProxies raw).entries.any
            (ipInCidr (String.ofList q.text) ·) = true :=
          any_eq_true.mpr ⟨e, mem, ipInCidr_of_lists lists⟩
        rw [resolve_eq listed, same, covered, given, filter_some, decide_eq_true some_,
          if_pos rfl, if_pos rfl, Option.elim_some]
      · exact absurd configured (unmapped q rfl)

/-- Well-formed entries are read as what they are. -/
theorem not_misread (wellFormed : ∀ e ∈ (parseTrustedProxies raw).entries,
      (∃ host : Quad, e = String.ofList host.text) ∨ ∃ range : Cidr, e = String.ofList range.text)
    (q : Quad) : ¬Misread raw (String.ofList q.text) := by
  intro misread
  generalize here : String.ofList q.text = socketIp at misread
  cases misread with
  | entry q' out mem block inBlock =>
    apply out
    rcases wellFormed _ mem with ⟨host, rfl⟩ | ⟨range, rfl⟩
    · obtain ⟨rfl, rfl⟩ := Quad.reads_iff.mp block
      refine ⟨_, mem, .inl ⟨host, rfl, ?_⟩⟩
      simpa [InBlock] using inBlock
    · obtain ⟨rfl, rfl⟩ := Cidr.reads_iff.mp block
      exact ⟨_, mem, .inr ⟨range, rfl, inBlock⟩⟩
  | peer odd address mem block inBlock => exact odd q here.symm

theorem ne_mapped (q q' : Quad) : String.ofList q.text ≠ mapped q' := by
  intro same
  have covered : ipInCidr (mapped q') (mapped q') = true := by
    rw [← same]
    exact (trustedProxies_host q q).mpr rfl
  rw [ipInCidr_mapped] at covered
  cases covered

/-- A proxy in a block may speak for its clients, and a stranger may not. -/
theorem proxies_told_apart : ∃ proxy stranger : Quad,
    String.ofList proxy.text = "192.168.7.9" ∧ String.ofList stranger.text = "192.169.0.1" ∧
      Configured (some "10.0.0.1, 192.168.0.0/16") proxy ∧
      ¬Configured (some "10.0.0.1, 192.168.0.0/16") stranger ∧
      Unforgeable (some "10.0.0.1, 192.168.0.0/16") "192.168.7.9" ∧
      Unforgeable (some "10.0.0.1, 192.168.0.0/16") "192.169.0.1" := by
  let zero : Octet := ⟨"0".toList, by decide, by decide⟩
  let one : Octet := ⟨"1".toList, by decide, by decide⟩
  let high : Octet := ⟨"192".toList, by decide, by decide⟩
  let next : Octet := ⟨"168".toList, by decide, by decide⟩
  let host : Quad := ⟨⟨"10".toList, by decide, by decide⟩, zero, zero, one⟩
  let range : Cidr := ⟨⟨high, next, zero, zero⟩, "16".toList, by decide, by decide, by decide⟩
  let proxy : Quad :=
    ⟨high, next, ⟨"7".toList, by decide, by decide⟩, ⟨"9".toList, by decide, by decide⟩⟩
  let stranger : Quad := ⟨high, ⟨"169".toList, by decide, by decide⟩, zero, one⟩
  have entries : (parseTrustedProxies (some "10.0.0.1, 192.168.0.0/16")).entries =
      [String.ofList host.text, String.ofList range.text] := by decide +kernel
  have unforgeable (q : Quad) :
      Unforgeable (some "10.0.0.1, 192.168.0.0/16") (String.ofList q.text) := by
    refine (unforgeable_iff (by decide)).mpr ⟨fun q' same => absurd same (ne_mapped q q'), ?_⟩
    apply not_misread
    simp only [entries, mem_cons, not_mem_nil, or_false]
    rintro e (rfl | rfl)
    · exact .inl ⟨host, rfl⟩
    · exact .inr ⟨range, rfl⟩
  refine ⟨proxy, stranger, by decide, by decide, ?_, ?_, unforgeable proxy, unforgeable stranger⟩
  · exact ⟨String.ofList range.text, by simp [entries], .inr ⟨range, rfl, by decide⟩⟩
  · rintro ⟨e, mem, lists⟩
    have covered := ipInCidr_of_lists lists
    simp only [entries, mem_cons, not_mem_nil, or_false] at mem
    rcases mem with rfl | rfl <;> revert covered <;> decide +kernel

/-- A proxy that a dual-stack socket reports is not heard, and an entry with a misprint takes in
whoever its leading numbers do. -/
theorem mapped_proxy_ignored : ¬Unforgeable (some "10.0.0.1") "::ffff:10.0.0.1" ∧
    ¬Unforgeable (some "10.0.0.0/8x") "10.9.9.9" := by
  constructor
  · intro unforgeable
    let zero : Octet := ⟨"0".toList, by decide, by decide⟩
    let proxy : Quad := ⟨⟨"10".toList, by decide, by decide⟩, zero, zero,
      ⟨"1".toList, by decide, by decide⟩⟩
    have configured : Configured (some "10.0.0.1") proxy :=
      ⟨"10.0.0.1", by decide +kernel, .inl ⟨proxy, by decide, rfl⟩⟩
    have honoured := unforgeable.honoured proxy (.inr (by decide)) configured
      ⟨some "::ffff:10.0.0.1", some "192.0.2.7"⟩ "192.0.2.7" rfl rfl (by decide)
    revert honoured
    decide +kernel
  · intro unforgeable
    have entries : (parseTrustedProxies (some "10.0.0.0/8x")).entries = ["10.0.0.0/8x"] := by
      decide +kernel
    have out : ∀ q, ¬Configured (some "10.0.0.0/8x") q := by
      rintro q ⟨e, mem, lists⟩
      rw [entries, mem_singleton] at mem
      subst mem
      rcases lists with ⟨host, named, -⟩ | ⟨range, named, -⟩
      · have slash : '/' ∈ "10.0.0.0/8x".toList := by decide
        rw [named, toList_ofList] at slash
        exact host.no_slash slash
      · have pieces : Text.split '/' "10.0.0.0/8x".toList = ["10.0.0.0".toList, "8x".toList] := by
          decide
        rw [named, toList_ofList, range.split_text] at pieces
        have digits := range.allDigits
        rw [(cons.inj (cons.inj pieces).2).1] at digits
        revert digits
        decide
    have same := unforgeable.ignored (fun q _ => out q) ⟨some "10.9.9.9", some "x"⟩
      ⟨some "10.9.9.9", some "y"⟩ rfl rfl
    revert same
    decide +kernel

end Idenplane.Security
