import Idenplane.Security.SafePost

/-! # Targets that are addresses

The URL parser leaves an address of version 6 in its brackets.  The classifier of hostnames takes
them off; `resolveSafeTarget` does not, and asks the network for what is no name.
-/

namespace Idenplane.Security

/-- The host of a URL that is an address. -/
inductive LiteralHost (text : List Char) : List Char → Prop where
  | v4 : isIP text = 4 → LiteralHost text text
  | v6 : isIP text = 6 → LiteralHost text ('[' :: (text ++ [']']))

/-- A network on which no name resolves. -/
def unanswered : Network := ⟨fun _ _ => none, fun _ _ => false, fun _ _ _ => .error ()⟩

section Targets

variable {rawUrl : String} {url : Url} {text hostname : List Char}

theorem LiteralHost.isAddress (host : LiteralHost text hostname) : isIP text ≠ 0 := by
  cases host with
  | v4 isFour => omega
  | v6 isSix => omega

theorem LiteralHost.spelled (host : LiteralHost text hostname) :
    hostname = text ∨ hostname = '[' :: (text ++ [']']) := by
  cases host with
  | v4 => exact .inl rfl
  | v6 => exact .inr rfl

theorem isIP_brackets (text : List Char) (plain : '%' ∉ text) : isIP ('[' :: (text ++ [']'])) = 0 := by
  by_contra isAddress
  obtain ⟨addr, denotes⟩ := exists_denotes isAddress
  have opening := denotes.addressChar (by simpa using plain) '[' mem_cons_self
  revert opening
  decide

variable {process : Process}

theorem public_passes (conforms : process.platform.Conforms)
    (parsed : process.platform.parseUrl rawUrl none = some url)
    (web : url.protocol = "http:" ∨ url.protocol = "https:")
    (host : LiteralHost text url.hostname) (isPublic : isBlockedIp text = false) :
    '%' ∉ text ∧ isBlockedHostnameLiteral process.platform.toLowerCase url.hostname = false := by
  have plain : '%' ∉ text := by
    have inHost := conforms.hostname_plain _ _ _ parsed web
    rcases host.spelled with same | same
    · rwa [same] at inHost
    · rw [same] at inHost
      simpa using inHost
  exact ⟨plain, (isBlockedHostnameLiteral_address conforms host.isAddress plain host.spelled).trans
    isPublic⟩

theorem resolveSafeTarget_pinned {net : Network} {hop : Nat}
    (parsed : process.platform.parseUrl rawUrl none = some url)
    (web : url.protocol = "http:" ∨ url.protocol = "https:")
    (passes : isBlockedHostnameLiteral process.platform.toLowerCase url.hostname = false)
    (isFour : isIP url.hostname = 4) :
    resolveSafeTarget process net hop rawUrl = .ok ⟨url, url.hostname, 4⟩ := by
  have allowed : ¬(url.protocol ≠ "http:" ∧ url.protocol ≠ "https:") := fun other =>
    web.elim other.1 other.2
  rw [resolveSafeTarget, parsed]
  simp only [if_neg allowed, passes, isFour, Bool.and_false, false_eq_true, if_false, true_or,
    if_true]

theorem resolveSafeTarget_unanswered (net : Network) (hop : Nat)
    (parsed : process.platform.parseUrl rawUrl none = some url)
    (web : url.protocol = "http:" ∨ url.protocol = "https:")
    (passes : isBlockedHostnameLiteral process.platform.toLowerCase url.hostname = false)
    (isName : isIP url.hostname = 0) (silent : net.lookup hop url.hostname = none) :
    resolveSafeTarget process net hop rawUrl =
      .error (.error "Delivery blocked: DNS resolution failed") := by
  have allowed : ¬(url.protocol ≠ "http:" ∧ url.protocol ≠ "https:") := fun other =>
    web.elim other.1 other.2
  have noFamily : ¬((0 : Nat) = 4 ∨ (0 : Nat) = 6) := by decide
  rw [resolveSafeTarget, parsed]
  simp only [if_neg allowed, passes, isName, Bool.and_false, false_eq_true, if_false,
    if_neg noFamily, silent, resolveName]

/-- A public address of version 4 is the target, whatever the network says; one of version 6 is
looked up like a name. -/
theorem literal_target_pinned_iff (process : Process) (conforms : process.platform.Conforms)
    (parsed : process.platform.parseUrl rawUrl none = some url)
    (web : url.protocol = "http:" ∨ url.protocol = "https:")
    (host : LiteralHost text url.hostname) (isPublic : isBlockedIp text = false) :
    (∀ net hop, resolveSafeTarget process net hop rawUrl = .ok ⟨url, text, isIP text⟩) ↔
        isIP text = 4 := by
  obtain ⟨plain, passes⟩ := public_passes conforms parsed web host isPublic
  generalize isHost : url.hostname = hostname at host
  cases host with
  | v4 isFour =>
    refine iff_of_true (fun net hop => ?_) isFour
    rw [resolveSafeTarget_pinned parsed web passes (by rw [isHost, isFour]), isHost, isFour]
  | v6 isSix =>
    refine iff_of_false (fun pinned => ?_) (by omega)
    have looked := resolveSafeTarget_unanswered unanswered 0 parsed web passes
      (by rw [isHost, isIP_brackets text plain]) rfl
    rw [pinned] at looked
    cases looked

end Targets

section Example

def hostPlatform (hostname : List Char) : Platform where
  parseUrl text _ :=
    if text.toList = "https://".toList ++ hostname ++ ['/'] then
      some ⟨"https:", hostname, "", "/", "", text⟩
    else none
  toLowerCase text := text.map Char.toLower

theorem hostPlatform_parses (hostname : List Char) (text : String)
    (isUrl : text.toList = "https://".toList ++ hostname ++ ['/']) :
    (hostPlatform hostname).parseUrl text none = some ⟨"https:", hostname, "", "/", "", text⟩ :=
  if_pos isUrl

theorem hostPlatform_conforms (hostname : List Char) (plain : '%' ∉ hostname) :
    (hostPlatform hostname).Conforms where
  hostname_plain := by
    intro text base url parsed _
    simp only [hostPlatform] at parsed
    split at parsed
    · cases parsed
      exact plain
    · cases parsed
  toLowerCase_ascii := fun _ _ => rfl

theorem literal_target_pinned_iff_v4 :
    resolveSafeTarget ⟨hostPlatform "1.1.1.1".toList, none⟩ unanswered 0 "https://1.1.1.1/" =
      .ok ⟨⟨"https:", "1.1.1.1".toList, "", "/", "", "https://1.1.1.1/"⟩, "1.1.1.1".toList,
        isIP "1.1.1.1".toList⟩ := by
  have isFour : isIP "1.1.1.1".toList = 4 := by decide +kernel
  have pinned := literal_target_pinned_iff ⟨hostPlatform "1.1.1.1".toList, none⟩
    (hostPlatform_conforms _ (by decide)) (hostPlatform_parses _ "https://1.1.1.1/" rfl)
    (.inr rfl) (.v4 isFour) (by decide +kernel)
  exact pinned.mpr isFour unanswered 0

/-- The host is public, and its address is not used. -/
theorem bracketed_target_looked_up :
    LiteralHost "2606:4700:4700::1111".toList "[2606:4700:4700::1111]".toList ∧
      isBlockedIp "2606:4700:4700::1111".toList = false ∧
      resolveSafeTarget ⟨hostPlatform "[2606:4700:4700::1111]".toList, none⟩ unanswered 0
        "https://[2606:4700:4700::1111]/" =
          .error (.error "Delivery blocked: DNS resolution failed") := by
  have isSix : isIP "2606:4700:4700::1111".toList = 6 := by decide +kernel
  have isPublic : isBlockedIp "2606:4700:4700::1111".toList = false := by decide +kernel
  have passes := isBlockedHostnameLiteral_address (hostPlatform_conforms
    "[2606:4700:4700::1111]".toList (by decide)) (isSix.trans_ne (by decide)) (by decide)
    (.inr rfl)
  refine ⟨.v6 isSix, isPublic, ?_⟩
  exact resolveSafeTarget_unanswered unanswered 0
    (hostPlatform_parses "[2606:4700:4700::1111]".toList _ rfl) (.inr rfl) (passes.trans isPublic)
    (isIP_brackets "2606:4700:4700::1111".toList (by decide)) rfl

end Example

end Idenplane.Security
