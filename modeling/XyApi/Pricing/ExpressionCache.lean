import XyApi.Lib.Interleaving
import XyApi.Pricing.TieredSettle
import Mathlib.Data.List.AList

/-!
The cache of compiled billing expressions, under goroutines that share it. `UsedVars`
compiles a missing expression and then reads its variables back from the cache; the two
are separate critical sections, and a cache that is emptied in between has no variables
to give.
-/

namespace XyApi.Pricing

open Lib Lib.Interleaving

variable {name exprStr : String}

/-! ### Expressions -/

/-- The syntax tree of a program, as far as its identifiers go. -/
inductive Node
  | identifier (value : String)
  | other (children : List Node)

inductive Node.References (name : String) : Node → Prop
  | identifier : References name (.identifier name)
  | other {children : List Node} {child : Node} (hChild : child ∈ children)
      (h : References name child) : References name (.other children)

mutual

def extractUsedVars : Node → List String
  | .identifier value => [value]
  | .other children => extractUsedVarsAll children

def extractUsedVarsAll : List Node → List String
  | [] => []
  | child :: rest => extractUsedVars child ++ extractUsedVarsAll rest

end

theorem mem_extractUsedVarsAll :
    name ∈ extractUsedVarsAll children ↔ ∃ child ∈ children, name ∈ extractUsedVars child := by
  induction children with
  | nil => simp [extractUsedVarsAll]
  | cons child rest ih => simp [extractUsedVarsAll, ih]

theorem References_of_mem : ∀ prog : Node, name ∈ extractUsedVars prog → prog.References name
  | .identifier value, h => by
      obtain rfl : name = value := by simpa [extractUsedVars] using h
      exact .identifier
  | .other children, h => by
      rw [extractUsedVars, mem_extractUsedVarsAll] at h
      obtain ⟨child, hChild, hName⟩ := h
      exact .other hChild (References_of_mem child hName)

/-- The walk over the tree finds every identifier. -/
theorem mem_extractUsedVars : name ∈ extractUsedVars prog ↔ prog.References name := by
  refine ⟨References_of_mem prog, fun h => ?_⟩
  induction h with
  | identifier => simp [extractUsedVars]
  | other hChild _ ih => exact mem_extractUsedVarsAll.mpr ⟨_, hChild, ih⟩

def defaultExprVersion : Int := 1

def parseExprVersion (exprStr : String) : Int × String :=
  if "v1:".toList.isPrefixOf exprStr.toList then (1, String.ofList (exprStr.toList.drop 3))
  else (defaultExprVersion, exprStr)

/-- The expression library: the digest of a text, and the program of a body. -/
structure ExprLibrary where
  exprHashString : String → String
  compile : Int → String → Option Node
  compile_empty : ∀ version, compile version "" = none

variable (lib : ExprLibrary)

def ExprLibrary.program (exprStr : String) : Option Node :=
  lib.compile (parseExprVersion exprStr).1 (parseExprVersion exprStr).2

/-! ### The cache and its critical sections -/

structure CachedEntry where
  prog : Node
  usedVars : List String

abbrev ExprCache := AList fun _ : String => CachedEntry

def maxCacheSize : Nat := 256

inductive Caller
  | usedVars
  | compile
  deriving DecidableEq, Repr

/-- Where a goroutine stands: before a critical section, or at its end. -/
inductive Goroutine
  | usedVars (exprStr : String)
  | lookup (caller : Caller) (exprStr hash : String)
  | store (caller : Caller) (exprStr hash : String) (prog : Node)
  | readVars (exprStr : String)
  | invalidate
  /-- `UsedVars` returned a set, or nil. -/
  | returned (exprStr : String) (vars : Option (List String))
  | done

def Goroutine.compiled (exprStr : String) : Caller → Goroutine
  | .usedVars => .readVars exprStr
  | .compile => .done

def Goroutine.failed (exprStr : String) : Caller → Goroutine
  | .usedVars => .returned exprStr none
  | .compile => .done

def Goroutine.step (cache : ExprCache) : Goroutine → ExprCache × Goroutine
  | .usedVars exprStr =>
    if exprStr = "" then (cache, .returned exprStr none)
    else
      match cache.lookup (lib.exprHashString exprStr) with
      | some entry => (cache, .returned exprStr (some entry.usedVars))
      | none => (cache, .lookup .usedVars exprStr (lib.exprHashString exprStr))
  | .lookup caller exprStr hash =>
    match cache.lookup hash, lib.program exprStr with
    | some _, _ => (cache, .compiled exprStr caller)
    | none, none => (cache, .failed exprStr caller)
    | none, some prog => (cache, .store caller exprStr hash prog)
  | .store caller exprStr hash prog =>
    let cache := if cache.keys.length ≥ maxCacheSize then ∅ else cache
    (cache.insert hash ⟨prog, extractUsedVars prog⟩, .compiled exprStr caller)
  | .readVars exprStr =>
    (cache, .returned exprStr
      ((cache.lookup (lib.exprHashString exprStr)).map CachedEntry.usedVars))
  | .invalidate => (∅, .done)
  | .returned exprStr vars => (cache, .returned exprStr vars)
  | .done => (cache, .done)

def cacheStep (sys : System ExprCache Goroutine) (event : Nat × Unit) :
    System ExprCache Goroutine :=
  sys.step (fun _ => Goroutine.step lib) event

def Goroutine.Call : Goroutine → Prop
  | .usedVars _ | .invalidate => True
  | .lookup caller exprStr hash => caller = .compile ∧ hash = lib.exprHashString exprStr
  | .store .. | .readVars _ | .returned .. | .done => False

def Goroutine.Resets (cache : ExprCache) : Goroutine → Prop
  | .invalidate => True
  | .store .. => cache.keys.length ≥ maxCacheSize
  | .usedVars _ | .lookup .. | .readVars _ | .returned .. | .done => False

instance (cache : ExprCache) : (g : Goroutine) → Decidable (g.Resets cache)
  | .invalidate => isTrue trivial
  | .store .. => inferInstanceAs (Decidable (_ ≥ _))
  | .usedVars _ | .lookup .. | .readVars _ | .returned .. | .done => isFalse id

def Goroutine.isReadVars : Goroutine → Bool
  | .readVars _ => true
  | .usedVars _ | .lookup .. | .store .. | .invalidate | .returned .. | .done => false

/-- The cache is emptied only while no `UsedVars` is about to read its variables back. -/
def Undisturbed (sys : System ExprCache Goroutine) (event : Nat × Unit) : Prop :=
  ∀ g ∈ sys.threads[event.1]?, g.Resets sys.shared → ∀ g' ∈ sys.threads, g'.isReadVars = false
  deriving Decidable

/-! ### Invariants -/

/-- Every entry is the compilation of an expression under its digest. -/
def ExprCache.Sound (cache : ExprCache) : Prop :=
  ∀ hash entry, cache.lookup hash = some entry → ∃ exprStr, hash = lib.exprHashString exprStr ∧
    lib.program exprStr = some entry.prog ∧ entry.usedVars = extractUsedVars entry.prog

def Goroutine.Sound (cache : ExprCache) : Goroutine → Prop
  | .usedVars _ | .invalidate | .done => True
  | .lookup _ exprStr hash => hash = lib.exprHashString exprStr
  | .store _ exprStr hash prog =>
    hash = lib.exprHashString exprStr ∧ lib.program exprStr = some prog
  | .readVars exprStr => ∃ entry, cache.lookup (lib.exprHashString exprStr) = some entry
  | .returned exprStr vars =>
    ∀ prog, lib.program exprStr = some prog → vars = some (extractUsedVars prog)

variable {lib}

theorem program_empty : lib.program "" = none := lib.compile_empty _

theorem Goroutine.Call.sound {cache : ExprCache} {g : Goroutine} (h : g.Call lib) :
    g.Sound lib cache := by
  cases g with
  | lookup => exact h.2
  | usedVars | invalidate => trivial
  | store | readVars | returned | done => exact h.elim

theorem ExprCache.Sound.empty : ExprCache.Sound lib ∅ := fun _ _ h => by
  simp at h

theorem ExprCache.Sound.insert {cache : ExprCache} (h : cache.Sound lib) {prog : Node}
    (hProg : lib.program exprStr = some prog) :
    ExprCache.Sound lib
      (cache.insert (lib.exprHashString exprStr) ⟨prog, extractUsedVars prog⟩) := by
  intro hash entry hEntry
  by_cases hHash : hash = lib.exprHashString exprStr
  · subst hHash
    rw [AList.lookup_insert] at hEntry
    cases hEntry
    exact ⟨exprStr, rfl, hProg, rfl⟩
  · rw [AList.lookup_insert_ne hHash] at hEntry
    exact h hash entry hEntry

/-- What the cache gives for an expression is the expression's own. -/
theorem ExprCache.Sound.usedVars {cache : ExprCache} (h : cache.Sound lib)
    (hDigest : Function.Injective lib.exprHashString) {entry : CachedEntry}
    (hEntry : cache.lookup (lib.exprHashString exprStr) = some entry) {prog : Node}
    (hProg : lib.program exprStr = some prog) : entry.usedVars = extractUsedVars prog := by
  obtain ⟨exprStr', hHash, hProg', hVars⟩ := h _ _ hEntry
  obtain rfl := hDigest hHash
  rw [hVars, Option.some.inj (hProg'.symm.trans hProg)]

theorem Goroutine.sound_compiled (h : cache.lookup (lib.exprHashString exprStr) = some entry)
    (caller : Caller) :
    (Goroutine.compiled exprStr caller).Sound lib cache := by
  cases caller with
  | usedVars => exact ⟨entry, h⟩
  | compile => trivial

theorem Goroutine.sound_step (hDigest : Function.Injective lib.exprHashString)
    {cache : ExprCache} (hCache : cache.Sound lib) {g : Goroutine} (hg : g.Sound lib cache) :
    (g.step lib cache).1.Sound lib ∧ (g.step lib cache).2.Sound lib (g.step lib cache).1 := by
  cases g with
  | usedVars =>
    rw [step]
    split
    · next hEmpty =>
        subst hEmpty
        refine ⟨hCache, fun prog hProg => ?_⟩
        rw [program_empty] at hProg
        cases hProg
    · split
      · next entry hEntry =>
          exact ⟨hCache, fun prog hProg => congrArg some (hCache.usedVars hDigest hEntry hProg)⟩
      · exact ⟨hCache, rfl⟩
  | lookup caller exprStr hash =>
    obtain rfl : hash = _ := hg
    rw [step]
    split
    · next entry _ hEntry => exact ⟨hCache, sound_compiled hEntry caller⟩
    · next _ hProg =>
        refine ⟨hCache, ?_⟩
        cases caller with
        | usedVars =>
          intro prog hProg'
          rw [hProg] at hProg'
          cases hProg'
        | compile => trivial
    · next _ hProg => exact ⟨hCache, rfl, hProg⟩
  | store caller =>
    obtain ⟨rfl, hProg⟩ := hg
    refine ⟨ExprCache.Sound.insert ?_ hProg, sound_compiled (AList.lookup_insert _) caller⟩
    split
    · exact .empty
    · exact hCache
  | readVars =>
    obtain ⟨entry, hEntry⟩ := hg
    refine ⟨hCache, fun prog hProg => ?_⟩
    rw [hEntry, Option.map_some, hCache.usedVars hDigest hEntry hProg]
  | invalidate => exact ⟨.empty, trivial⟩
  | returned => exact ⟨hCache, hg⟩
  | done => exact ⟨hCache, trivial⟩

/-- A step that does not empty the cache leaves every expression in it. -/
theorem Goroutine.lookup_step {cache : ExprCache} {g : Goroutine} (hKeeps : ¬ g.Resets cache)
    {hash : String} {entry : CachedEntry} (h : cache.lookup hash = some entry) :
    ∃ entry', (g.step lib cache).1.lookup hash = some entry' := by
  cases g with
  | usedVars =>
    rw [step]
    split
    · exact ⟨entry, h⟩
    · split <;> exact ⟨entry, h⟩
  | lookup =>
    rw [step]
    split <;> exact ⟨entry, h⟩
  | store caller exprStr key =>
    have hRoom : ¬ cache.keys.length ≥ maxCacheSize := hKeeps
    simp only [step, if_neg hRoom]
    by_cases hKey : hash = key
    · subst hKey
      exact ⟨_, AList.lookup_insert _⟩
    · exact ⟨entry, (AList.lookup_insert_ne hKey).trans h⟩
  | readVars | returned | done => exact ⟨entry, h⟩
  | invalidate => exact absurd trivial hKeeps

theorem cacheStep_keeps (hDigest : Function.Injective lib.exprHashString) :
    Keeps (fun _ : Unit => Goroutine.step lib) Undisturbed (ExprCache.Sound lib)
      (fun cache g => g.Sound lib cache) where
  own hSys _ hGet := Goroutine.sound_step hDigest hSys.1 (hSys.2 _ (List.mem_of_getElem? hGet))
  others {sys event g g'} hSys hOk hGet hg' := by
    have hSound := hSys.2 g' hg'
    cases g' with
    | readVars =>
      have hKeeps : ¬ g.Resets sys.shared := fun hResets => by
        cases hOk g hGet hResets _ hg'
      obtain ⟨entry, hEntry⟩ := hSound
      exact Goroutine.lookup_step hKeeps hEntry
    | usedVars | invalidate | done | lookup | store | returned => exact hSound

/-! ### How many steps a call takes -/

def Goroutine.Remaining (exprStr : String) (n : Nat) : Goroutine → Prop
  | .usedVars expr => expr = exprStr ∧ 4 ≤ n
  | .lookup caller expr _ => caller = .usedVars ∧ expr = exprStr ∧ 3 ≤ n
  | .store caller expr _ _ => caller = .usedVars ∧ expr = exprStr ∧ 2 ≤ n
  | .readVars expr => expr = exprStr ∧ 1 ≤ n
  | .returned expr _ => expr = exprStr
  | .invalidate | .done => False

theorem Goroutine.remaining_step (cache : ExprCache) {g : Goroutine} {n : Nat}
    (h : g.Remaining exprStr n) : (g.step lib cache).2.Remaining exprStr (n - 1) := by
  cases g with
  | usedVars =>
    obtain ⟨rfl, hn⟩ := h
    rw [step]
    split
    · rfl
    · split
      · rfl
      · exact ⟨rfl, rfl, by omega⟩
  | lookup =>
    obtain ⟨rfl, rfl, hn⟩ := h
    rw [step]
    split
    · exact ⟨rfl, by omega⟩
    · rfl
    · exact ⟨rfl, rfl, by omega⟩
  | store =>
    obtain ⟨rfl, rfl, hn⟩ := h
    exact ⟨rfl, by omega⟩
  | readVars => exact h.1
  | returned => exact h
  | invalidate | done => exact h.elim

/-! ### Every run -/

def usesVar (vars : Option (List String)) (name : String) : Bool :=
  (vars.getD []).contains name

/-- A `UsedVars` call that gets its four steps returns the identifiers of its expression,
and the parameters built with them are those of the expression's true variables. -/
theorem usedVars_complete (lib : ExprLibrary) (hDigest : Function.Injective lib.exprHashString)
    (calls : List Goroutine) (hCalls : ∀ g ∈ calls, g.Call lib) (schedule : List (Nat × Unit))
    (hUndisturbed : Guarded (cacheStep lib) Undisturbed ⟨∅, calls⟩ schedule) {i : Nat}
    (hCall : calls[i]? = some (.usedVars exprStr)) {prog : Node}
    (hProg : lib.program exprStr = some prog) (hSteps : 4 ≤ schedule.countP (·.1 = i)) :
    ∃ vars, (run (cacheStep lib) ⟨∅, calls⟩ schedule).threads[i]? =
        some (.returned exprStr vars) ∧
      (∀ name, usesVar vars name = true ↔ prog.References name) ∧
      ∀ usage isClaude usedVars, (∀ name, usedVars name = true ↔ prog.References name) →
        buildTieredTokenParams usage isClaude (usesVar vars) =
          buildTieredTokenParams usage isClaude usedVars := by
  have hStart : System.Holds (ExprCache.Sound lib) (fun cache g => g.Sound lib cache) ⟨∅, calls⟩ :=
    ⟨.empty, fun g hg => (hCalls g hg).sound⟩
  have hSound := (cacheStep_keeps hDigest).run hStart hUndisturbed
  obtain ⟨g, hGet, hRemaining⟩ := @thread_run _ _ _ (fun _ : Unit => Goroutine.step lib)
    (fun n g => g.Remaining exprStr (4 - n)) (fun _ cache g n h => by
      rw [show 4 - (n + 1) = 4 - n - 1 by omega]
      exact g.remaining_step cache h) i schedule 0 ⟨∅, calls⟩ _ hCall ⟨rfl, le_rfl⟩
  rw [show 4 - (0 + schedule.countP (·.1 = i)) = 0 by omega] at hRemaining
  cases g with
  | returned expr vars =>
    obtain rfl : expr = exprStr := hRemaining
    have hVars : vars = some (extractUsedVars prog) :=
      hSound.2 _ (List.mem_of_getElem? hGet) prog hProg
    have hUses (name : String) : usesVar vars name = true ↔ prog.References name := by
      simp [usesVar, hVars, mem_extractUsedVars]
    refine ⟨vars, hGet, hUses, fun usage isClaude usedVars hUsed => ?_⟩
    have hSame : usesVar vars = usedVars := funext fun name =>
      Bool.eq_iff_iff.mpr ((hUses name).trans (hUsed name).symm)
    rw [hSame]
  | usedVars => exact absurd hRemaining.2 (by decide)
  | lookup => exact absurd hRemaining.2.2 (by decide)
  | store => exact absurd hRemaining.2.2 (by decide)
  | readVars => exact absurd hRemaining.2 (by decide)
  | invalidate | done => exact hRemaining.elim

/-- Expressions that are one identifier each, under digests that are the texts. -/
def identifierLibrary : ExprLibrary where
  exprHashString exprStr := exprStr
  compile _ body := if body = "" then none else some (.identifier body)
  compile_empty _ := rfl

def sampleCalls : List Goroutine := [.usedVars "ai", .invalidate, .lookup .compile "ao" "ao"]

theorem usedVars_complete_sample :
    ∃ vars, (run (cacheStep identifierLibrary) ⟨∅, sampleCalls⟩
        [(0, ()), (0, ()), (2, ()), (1, ()), (0, ()), (2, ()), (0, ()), (2, ())]).threads[0]? =
        some (.returned "ai" vars) ∧
      (∀ name, usesVar vars name = true ↔ (Node.identifier "ai").References name) ∧
      ∀ usage isClaude usedVars,
        (∀ name, usedVars name = true ↔ (Node.identifier "ai").References name) →
        buildTieredTokenParams usage isClaude (usesVar vars) =
          buildTieredTokenParams usage isClaude usedVars :=
  usedVars_complete identifierLibrary Function.injective_id sampleCalls
    (by simp [sampleCalls, Goroutine.Call, identifierLibrary]) _ (by decide +kernel) rfl rfl
    (by decide)

/-- An invalidation between the compilation and the second lookup: the variables are lost,
and audio input that the expression prices stays in the prompt. -/
theorem usedVars_lost :
    (run (cacheStep identifierLibrary) ⟨∅, sampleCalls⟩
        [(0, ()), (0, ()), (0, ()), (1, ()), (0, ())]).threads[0]? =
        some (.returned "ai" none) ∧
      identifierLibrary.program "ai" = some (.identifier "ai") ∧
      let usage : Usage := { promptTokens := 3, promptTokensDetails := { audioTokens := 2 } }
      (buildTieredTokenParams usage false (usesVar none)).p = .finite 3 ∧
      (buildTieredTokenParams usage false (usesVar (some ["ai"]))).p = .finite 1 :=
  ⟨rfl, rfl, by decide +kernel, by decide +kernel⟩

end XyApi.Pricing
