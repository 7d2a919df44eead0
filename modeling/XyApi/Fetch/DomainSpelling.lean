import XyApi.Fetch.Client

/-!
Spellings of a host name. Two spellings name the same host when they are equal up to
letter case and one trailing dot. The lists compare texts in lower case, so they see
through the letter case; they do not see through the dot.
-/

namespace XyApi.Fetch

variable {lib : NetLib} {p : SSRFProtection} {host name : String}

def EndsWithDot (text : String) : Prop := text.toList.getLast? = some '.'
  deriving Decidable

def canonicalName (name : String) : String :=
  toLower (if EndsWithDot name then String.ofList name.toList.dropLast else name)

def DnsEquiv (host name : String) : Prop := canonicalName host = canonicalName name
  deriving Decidable

/-- A host that is a name: no white space around it, and no address. -/
structure HostName (lib : NetLib) (host : String) : Prop where
  trimmed : trimSpace host = host
  notIP : lib.parseIP host = none

theorem char_toLower_eq_dot : c.toLower = '.' ↔ c = '.' := by
  unfold Char.toLower
  split
  · rename_i hUpper
    constructor
    · intro h
      have hNat : (c.val + ('a'.val - 'A'.val)).toNat = 46 := congrArg (fun c => c.val.toNat) h
      have hLow : 65 ≤ c.val.toNat := UInt32.le_iff_toNat_le.mp hUpper.1
      have hHigh : c.val.toNat ≤ 90 := UInt32.le_iff_toNat_le.mp hUpper.2
      rw [UInt32.toNat_add, show ('a'.val - 'A'.val).toNat = 32 by decide] at hNat
      omega
    · rintro rfl
      exact absurd hUpper.1 (by decide)
  · exact Iff.rfl

theorem endsWithDot_toLower : EndsWithDot (toLower name) ↔ EndsWithDot name := by
  unfold EndsWithDot toLower
  rw [String.toList_ofList, List.getLast?_map, Option.map_eq_some_iff]
  simp [char_toLower_eq_dot]

theorem isDomainListed_congr (h : toLower host = toLower name) :
    isDomainListed host list = isDomainListed name list := by
  unfold isDomainListed
  rw [h]

/-- The entries of the list match a name by its end, so without a trailing dot in the
list no listed name has one. -/
theorem not_endsWithDot_of_listed (hEntries : ∀ item ∈ list, ¬ EndsWithDot (trimSpace item))
    (h : isDomainListed name list = true) : ¬ EndsWithDot name := by
  obtain ⟨item, hItem, hMatch⟩ := List.any_eq_true.mp h
  have hEntry : ¬ EndsWithDot (toLower (trimSpace item)) := fun hDot =>
    hEntries item hItem (endsWithDot_toLower.mp hDot)
  rw [← endsWithDot_toLower]
  simp only [decide_eq_true_eq] at hMatch
  generalize toLower (trimSpace item) = entry at hEntry hMatch
  generalize toLower name = domain at hMatch ⊢
  obtain ⟨-, rfl | ⟨⟨suffix, hWildcard⟩, hSuffix⟩⟩ := hMatch
  · exact hEntry
  · -- The end of the name is the end of the entry.
    have hDrop : (['*', '.'] ++ suffix).drop 2 = suffix := rfl
    rw [← hWildcard, hDrop] at hSuffix
    unfold EndsWithDot at hEntry ⊢
    rw [← hWildcard] at hEntry
    cases suffix with
    | nil => exact absurd rfl hEntry
    | cons =>
      rw [List.getLast?_append, List.getLast?_cons, Option.some_or] at hEntry
      rcases hSuffix with ⟨front, hFront⟩ | hSame
      · rw [← hFront, List.getLast?_append, List.getLast?_cons_cons, List.getLast?_cons,
          Option.some_or]
        exact hEntry
      · rw [hSame, List.getLast?_cons]
        exact hEntry

/-- A name that is written like a listed one, up to letter case, is listed. -/
theorem listed_of_equiv (hHost : ¬ EndsWithDot host)
    (hEntries : ∀ item ∈ list, ¬ EndsWithDot (trimSpace item))
    (hListed : isDomainListed name list = true) (hEquiv : DnsEquiv host name) :
    isDomainListed host list = true := by
  unfold DnsEquiv canonicalName at hEquiv
  rw [if_neg hHost, if_neg (not_endsWithDot_of_listed hEntries hListed)] at hEquiv
  rw [isDomainListed_congr hEquiv]
  exact hListed

/-! ### Refusal and admission -/

/-- No URL with this host passes the check, and the dialer connects to none. -/
structure Refused (lib : NetLib) (p : SSRFProtection) (host : String) : Prop where
  url : ∀ urlStr u answer, lib.parseURL urlStr = some u → u.target.1 = host →
    ∃ e, p.validateURL lib urlStr answer = .error e
  dial : ∀ call port, splitHostPort call.addr = some (host, port) →
    ∃ e, dialContext lib p call = .error e

def Admitted (lib : NetLib) (p : SSRFProtection) (host : String) : Prop :=
  (∃ urlStr u answer, lib.parseURL urlStr = some u ∧ u.target.1 = host ∧
    p.validateURL lib urlStr answer = .ok ()) ∨
  ∃ call port targets, splitHostPort call.addr = some (host, port) ∧
    dialContext lib p call = .ok targets

/-- A name passes the check of a target only if its text does. -/
theorem isDomainAllowed_of_ok (hHost : HostName lib host)
    (h : p.validateNetworkTarget lib host port = .ok u) : p.isDomainAllowed host = true := by
  unfold SSRFProtection.validateNetworkTarget at h
  simp only [hHost.trimmed, hHost.notIP] at h
  split at h
  · cases h
  split at h
  · cases h
  split at h
  · cases h
  split at h
  · assumption
  · split at h <;> cases h

theorem isDomainAllowed_of_validateURL (hHost : HostName lib u.target.1)
    (hUrl : lib.parseURL urlStr = some u) (h : p.validateURL lib urlStr answer = .ok ()) :
    p.isDomainAllowed u.target.1 = true := by
  unfold SSRFProtection.validateURL at h
  simp only [hUrl] at h
  split at h
  · cases h
  split at h
  · cases h
  obtain ⟨v, hValid, -⟩ := bind_ok h
  exact isDomainAllowed_of_ok hHost hValid

theorem isDomainAllowed_of_dialContext (hHost : HostName lib host)
    (hAddr : splitHostPort call.addr = some (host, port)) (h : dialContext lib p call = .ok targets)
    : p.isDomainAllowed host = true := by
  unfold dialContext at h
  simp only [hAddr] at h
  split at h
  · cases h
  obtain ⟨v, hValid, -⟩ := bind_ok h
  exact isDomainAllowed_of_ok hHost hValid

theorem admitted_isDomainAllowed (hHost : HostName lib host) (h : Admitted lib p host) :
    p.isDomainAllowed host = true := by
  rcases h with ⟨urlStr, u, answer, hUrl, rfl, hOk⟩ | ⟨call, port, targets, hAddr, hOk⟩
  · exact isDomainAllowed_of_validateURL hHost hUrl hOk
  · exact isDomainAllowed_of_dialContext hHost hAddr hOk

theorem refused_of_not_admitted (h : ¬ Admitted lib p host) : Refused lib p host where
  url urlStr u answer hUrl hHost := by
    cases hValid : p.validateURL lib urlStr answer with
    | error e => exact ⟨e, rfl⟩
    | ok => exact absurd (.inl ⟨urlStr, u, answer, hUrl, hHost, hValid⟩) h
  dial call port hAddr := by
    cases hDial : dialContext lib p call with
    | error e => exact ⟨e, rfl⟩
    | ok targets => exact absurd (.inr ⟨call, port, targets, hAddr, hDial⟩) h

/-- The texts of the sample blacklist, read once. -/
theorem sampleBlacklist_texts :
    isDomainListed "evil.com" sampleBlacklist.domainList = true ∧
      (∀ item ∈ sampleBlacklist.domainList, ¬ EndsWithDot (trimSpace item)) ∧
      trimSpace "EVIL.com" = "EVIL.com" ∧ ¬ EndsWithDot "EVIL.com" ∧ DnsEquiv "EVIL.com" "evil.com" ∧
      DnsEquiv "evil.com." "evil.com" := by
  decide +kernel

end XyApi.Fetch
