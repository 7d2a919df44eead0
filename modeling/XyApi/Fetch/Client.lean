import XyApi.Fetch.Protection

/-!
The protected fetch client. A request is checked before it goes to the transport, a
redirect is checked before it is followed, and the dialer checks again what it is about
to connect to: the address itself, not the name it was resolved from. The resolver is
asked anew at every check and may answer differently each time.
-/

namespace XyApi.Fetch

variable (lib : NetLib) (p : SSRFProtection)

/-- What the dialer hands to the network: an address, or a text to be resolved there. -/
inductive DialTarget
  | ip (addr : NetIp) (port : String)
  | text (addr : String)
  deriving DecidableEq, Repr

/-- `JoinHostPort` of the text of an address; an IPv4 address is written in four bytes. -/
def dialIP (ip : NetIp) (port : String) : DialTarget := .ip ip.unmap port

def networkAllowsIP (network : String) (ip : NetIp) : Bool :=
  if network = "tcp4" then ip.is4 else if network = "tcp6" then ¬ ip.is4 else true

def candidateIPs (host network : String) : List (Option NetIp) → Except String (List NetIp)
  | [] => .ok []
  | none :: rest => candidateIPs host network rest
  | some ip :: rest =>
    if ¬ networkAllowsIP network ip then candidateIPs host network rest
    else do
      p.validateResolvedIP lib host ip
      let candidates ← candidateIPs host network rest
      .ok (ip :: candidates)

def attempts (connects : NetIp → Bool) (port : String) : List NetIp → List DialTarget
  | [] => []
  | ip :: rest => dialIP ip port :: if connects ip then [] else attempts connects port rest

/-- One call of the dialer: where the transport wants to connect, what the resolver answers
to this call, and which addresses accept a connection. -/
structure DialCall where
  network : String
  addr : String
  answer : Option (List (Option NetIp))
  connects : NetIp → Bool

def dialContext (call : DialCall) : Except String (List DialTarget) :=
  match splitHostPort call.addr with
  | none => .error ("invalid dial address " ++ call.addr)
  | some (host, portText) =>
    match atoi portText with
    | none => .error ("invalid port: " ++ portText)
    | some port => do
        p.validateNetworkTarget lib host port
        match lib.parseIP host with
        | some ip => .ok [dialIP ip portText]
        | none =>
          if ¬ p.applyIPFilterForDomain then .ok [.text call.addr]
          else
            match call.answer with
            | none => .error ("DNS resolution failed for " ++ host)
            | some resolved => do
                let candidates ← candidateIPs lib p host call.network resolved
                .ok (attempts call.connects portText candidates)

/-- One request of a redirect chain: the answers that the resolver gives to the check of
the redirect and to the check of the request, and the calls that the transport makes of
the dialer. A request that goes through a proxy makes none. -/
structure Hop where
  url : String
  redirectAnswer : Option (List NetIp)
  requestAnswer : Option (List NetIp)
  viaProxy : Bool
  dials : List DialCall

inductive FetchEvent
  /-- A request was handed to the transport. -/
  | sent (url : String) (answer : Option (List NetIp))
  | dialed (target : DialTarget)
  deriving DecidableEq, Repr

def dialEvents (call : DialCall) : List FetchEvent :=
  match dialContext lib p call with
  | .ok targets => targets.map .dialed
  | .error _ => []

def roundTrip (hop : Hop) : Except String (List FetchEvent) := do
  p.validateURL lib hop.url hop.requestAnswer
  .ok (.sent hop.url hop.requestAnswer ::
    if hop.viaProxy then [] else hop.dials.flatMap (dialEvents lib p))

def checkProtectedFetchRedirect (hop : Hop) (via : Nat) : Except String Unit := do
  match p.validateURL lib hop.url hop.redirectAnswer with
  | .error e => .error ("redirect to " ++ hop.url ++ " blocked: " ++ e)
  | .ok () => if via ≥ 10 then .error "stopped after 10 redirects" else .ok ()

def followRedirects (via : Nat) : List Hop → List FetchEvent
  | [] => []
  | hop :: rest =>
    match checkProtectedFetchRedirect lib p hop via with
    | .error _ => []
    | .ok () =>
      match roundTrip lib p hop with
      | .error _ => []
      | .ok events => events ++ followRedirects (via + 1) rest

def fetch (first : Hop) (redirects : List Hop) : List FetchEvent :=
  match roundTrip lib p first with
  | .error _ => []
  | .ok events => events ++ followRedirects lib p 1 redirects

/-! ### What is dialed -/

variable {lib p}

theorem unmap_contains (network : IpNet) (ip : NetIp) :
    network.contains ip.unmap = network.contains ip := by
  unfold IpNet.contains
  rw [NetIp.unmap_unmap]

/-- The policy does not see which form an IPv4 address has. -/
theorem isIPAccessAllowed_unmap (ip : NetIp) :
    p.isIPAccessAllowed lib ip.unmap = p.isIPAccessAllowed lib ip := by
  unfold SSRFProtection.isIPAccessAllowed isPrivateIP isIpInCIDRList NetIp.is4
  simp only [unmap_contains, NetIp.unmap_unmap]

theorem bind_ok {ε α β : Type} {x : Except ε α} {f : α → Except ε β} {b : β}
    (h : (x >>= f) = .ok b) : ∃ a, x = .ok a ∧ f a = .ok b := by
  cases x with
  | error => cases h
  | ok a => exact ⟨a, rfl, h⟩

theorem validateResolvedIP_ok (h : p.validateResolvedIP lib host ip = .ok u) :
    p.isIPAccessAllowed lib ip = true := by
  unfold SSRFProtection.validateResolvedIP at h
  split at h
  · assumption
  · cases h

theorem candidateIPs_allowed {host network : String} {resolved : List (Option NetIp)}
    {candidates : List NetIp} (h : candidateIPs lib p host network resolved = .ok candidates) :
    ∀ ip ∈ candidates, p.isIPAccessAllowed lib ip = true := by
  induction resolved generalizing candidates with
  | nil =>
    cases h
    simp
  | cons answer rest ih =>
    cases answer with
    | none => exact ih h
    | some =>
      unfold candidateIPs at h
      split at h
      · exact ih h
      · obtain ⟨u, hValid, h⟩ := bind_ok h
        obtain ⟨others, hRest, h⟩ := bind_ok h
        cases h
        intro ip' hIp'
        rcases List.mem_cons.mp hIp' with rfl | hIp'
        · exact validateResolvedIP_ok hValid
        · exact ih hRest ip' hIp'

def Accepted (lib : NetLib) (p : SSRFProtection) (target : DialTarget) : Prop :=
  ∃ ip port, target = .ip ip port ∧ p.isIPAccessAllowed lib ip = true

theorem accepted_dialIP (port : String) (h : p.isIPAccessAllowed lib ip = true) :
    Accepted lib p (dialIP ip port) :=
  ⟨ip.unmap, port, rfl, by rw [isIPAccessAllowed_unmap]; exact h⟩

theorem attempts_accepted (h : ∀ ip ∈ candidates, p.isIPAccessAllowed lib ip = true) :
    ∀ target ∈ attempts connects port candidates, Accepted lib p target := by
  induction candidates with
  | nil => simp [attempts]
  | cons ip rest ih =>
    intro target hTarget
    rcases List.mem_cons.mp hTarget with rfl | hTarget
    · exact accepted_dialIP port (h ip List.mem_cons_self)
    · split at hTarget
      · cases hTarget
      · exact ih (fun ip' hIp' => h ip' (List.mem_cons_of_mem ip hIp')) target hTarget

/-- An address that is written out was checked as an address. -/
theorem validateNetworkTarget_ip (hParse : lib.parseIP host = some ip)
    (h : p.validateNetworkTarget lib host port = .ok u) :
    p.isIPAccessAllowed lib ip = true := by
  unfold SSRFProtection.validateNetworkTarget at h
  simp only [lib.parseIP_trimmed host ip hParse, hParse] at h
  split at h
  · cases h
  split at h
  · cases h
  split at h
  · cases h
  split at h
  · assumption
  · cases h

theorem dialContext_accepted {call : DialCall} {targets : List DialTarget}
    (hFilter : p.applyIPFilterForDomain = true) (h : dialContext lib p call = .ok targets) :
    ∀ target ∈ targets, Accepted lib p target := by
  unfold dialContext at h
  split at h
  · cases h
  split at h
  · cases h
  obtain ⟨u, hValid, h⟩ := bind_ok h
  split at h
  · rename_i hParse
    cases h
    intro target hTarget
    rw [List.mem_singleton.mp hTarget]
    exact accepted_dialIP _ (validateNetworkTarget_ip hParse hValid)
  · rw [if_neg (by simp [hFilter])] at h
    split at h
    · cases h
    · obtain ⟨candidates, hCandidates, h⟩ := bind_ok h
      cases h
      exact attempts_accepted (candidateIPs_allowed hCandidates)

/-! ### Whole fetches -/

/-- A request was sent after its URL passed the check, and a connection was made to an
address that the policy accepts. -/
def EventSafe (lib : NetLib) (p : SSRFProtection) : FetchEvent → Prop
  | .sent url answer => p.validateURL lib url answer = .ok ()
  | .dialed target => Accepted lib p target

theorem roundTrip_safe {hop : Hop} {events : List FetchEvent}
    (hFilter : p.applyIPFilterForDomain = true) (h : roundTrip lib p hop = .ok events) :
    ∀ event ∈ events, EventSafe lib p event := by
  obtain ⟨u, hValid, h⟩ := bind_ok h
  cases h
  intro event hEvent
  rcases List.mem_cons.mp hEvent with rfl | hEvent
  · exact hValid
  · split at hEvent
    · cases hEvent
    · obtain ⟨call, -, hEvent⟩ := List.mem_flatMap.mp hEvent
      unfold dialEvents at hEvent
      split at hEvent
      · rename_i targets hDial
        obtain ⟨target, hTarget, rfl⟩ := List.mem_map.mp hEvent
        exact dialContext_accepted hFilter hDial target hTarget
      · cases hEvent

theorem followRedirects_safe (hFilter : p.applyIPFilterForDomain = true) (via : Nat)
    (hops : List Hop) : ∀ event ∈ followRedirects lib p via hops, EventSafe lib p event := by
  induction hops generalizing via with
  | nil => simp [followRedirects]
  | cons hop rest ih =>
    unfold followRedirects
    split
    · simp
    · split
      · simp
      · rename_i events hTrip
        intro event hEvent
        rcases List.mem_append.mp hEvent with hEvent | hEvent
        · exact roundTrip_safe hFilter hTrip event hEvent
        · exact ih (via + 1) event hEvent

/-- With addresses of names filtered, whatever the resolver answers and wherever the
redirects lead: each connection of the dialer goes to an address that the policy
accepts, and each request that is sent passed the check of its URL. -/
theorem fetch_connects_to_accepted (hFilter : p.applyIPFilterForDomain = true) (first : Hop)
    (redirects : List Hop) :
    ∀ event ∈ fetch lib p first redirects, EventSafe lib p event := by
  unfold fetch
  split
  · simp
  · rename_i events hTrip
    intro event hEvent
    rcases List.mem_append.mp hEvent with hEvent | hEvent
    · exact roundTrip_safe hFilter hTrip event hEvent
    · exact followRedirects_safe hFilter 1 redirects event hEvent

def sampleLib : NetLib where
  parseIP _ := none
  parseIP_trimmed _ _ h := by cases h
  formatIP _ := ""
  parseCIDR _ := none
  parseURL text :=
    if ['h', 't', 't', 'p', ':', '/', '/'] <+: text.toList then
      some ⟨"http", String.ofList ((text.toList.drop 7).takeWhile (· ≠ '/'))⟩
    else none

def sampleBlacklist : SSRFProtection where
  allowPrivateIp := false
  domainFilterMode := false
  domainList := ["evil.com"]
  ipFilterMode := false
  ipList := []
  allowedPorts := []
  applyIPFilterForDomain := true

/-- The resolver answers with a public address to the check and with a loopback address
to the first call of the dialer. -/
def sampleRebinding : Hop where
  url := "http://good.com/"
  redirectAnswer := none
  requestAnswer := some [.four 0x08080808]
  viaProxy := false
  dials := [⟨"tcp", "good.com:80", some [some (.four 0x7f000001)], fun _ => true⟩,
    ⟨"tcp", "good.com:80", some [some (.four 0x08080808)], fun _ => true⟩]

theorem fetch_connects_to_accepted_rebinding :
    fetch sampleLib sampleBlacklist sampleRebinding [] =
        [.sent "http://good.com/" (some [.four 0x08080808]),
          .dialed (.ip (.four 0x08080808) "80")] ∧
      ∀ event ∈ fetch sampleLib sampleBlacklist sampleRebinding [],
        EventSafe sampleLib sampleBlacklist event :=
  ⟨by decide +kernel, fetch_connects_to_accepted rfl sampleRebinding []⟩

end XyApi.Fetch
