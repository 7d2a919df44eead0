import XyApi.Pricing.QuotaRange

/-!
Realtime sessions and audio completions under a billing expression. An audio completion
offers its audio counts to the expression and takes them out of the totals where the
expression prices them; a realtime session offers the totals alone. The two settle alike
when the expression refers to neither audio count.
-/

namespace XyApi.Pricing

open Lib

def TokenParams.get? (params : TokenParams) : String → Option Float64
  | "p" => params.p
  | "c" => params.c
  | "len" => params.len
  | "cr" => params.cr
  | "cc" => params.cc
  | "cc1h" => params.cc1h
  | "img" => params.img
  | "img_o" => params.imgO
  | "ai" => params.ai
  | "ao" => params.ao
  | _ => none

/-- Billing expressions: what running one gives and which identifiers it refers to. The
outcome depends on the counts of these identifiers only. -/
structure BillingExpressions where
  run : ExprRunner
  usedVars : String → String → Bool
  reads : ∀ {expr : String} {params params' : TokenParams} (request : RequestInput),
    (∀ name, usedVars expr name = true → params.get? name = params'.get? name) →
      run expr params request = run expr params' request

/-- An audio completion with the counts of a realtime session and no others. -/
structure SameCounts (realtime : RealtimeUsage) (audio : Usage) : Prop where
  total : audio.totalTokens = realtime.totalTokens
  input : audio.promptTokens = realtime.inputTokens
  output : audio.completionTokens = realtime.outputTokens
  inputDetails : audio.promptTokensDetails =
    { textTokens := realtime.inputTokenDetails.textTokens
      audioTokens := realtime.inputTokenDetails.audioTokens }
  outputDetails : audio.completionTokenDetails =
    { textTokens := realtime.outputTokenDetails.textTokens
      audioTokens := realtime.outputTokenDetails.audioTokens }
  creation5m : audio.claudeCacheCreation5mTokens = 0
  creation1h : audio.claudeCacheCreation1hTokens = 0

theorem subtractIf_zero :
    subtractIf used (.ofInt n) (.ofInt 0) = .ofInt n := by
  have hZero : Float64.ofInt 0 = .finite 0 := Float64.ofInt_of_lt (by norm_num)
  unfold subtractIf
  split
  · rw [hZero, Float64.sub_zero_ofInt]
  · rfl

theorem clampNonneg_ofInt (h : 0 ≤ n) : clampNonneg (.ofInt n) = .ofInt n := by
  have hNotNeg : Float64.NotNeg (.ofInt n) := Float64.ofRat_notNeg (by exact_mod_cast h)
  unfold clampNonneg
  rw [if_neg (by rw [hNotNeg]; simp)]

/-- Without a price for audio, only the audio counts tell the parameters apart. -/
theorem buildTieredTokenParams_audio (hSame : SameCounts realtime audio)
    (hInput : 0 ≤ realtime.inputTokens) (hOutput : 0 ≤ realtime.outputTokens)
    (hAi : usedVars "ai" = false) (hAo : usedVars "ao" = false) :
    buildTieredTokenParams audio false usedVars =
      { p := .ofInt realtime.inputTokens
        c := .ofInt realtime.outputTokens
        len := .ofInt realtime.inputTokens
        ai := .ofInt realtime.inputTokenDetails.audioTokens
        ao := .ofInt realtime.outputTokenDetails.audioTokens } := by
  have hZero : Float64.ofInt 0 = .finite 0 := Float64.ofInt_of_lt (by norm_num)
  have hSub (used : Bool) (n : Int) : subtractIf used (.ofInt n) (.finite 0) = .ofInt n := by
    rw [← hZero, subtractIf_zero]
  simp only [buildTieredTokenParams, hSame.input, hSame.output, hSame.inputDetails,
    hSame.outputDetails, hSame.creation5m, hSame.creation1h, ite_self, hZero, hAi, hAo, hSub,
    Bool.and_false, Bool.not_false, Bool.true_and, Bool.false_eq_true, if_false]
  simp only [subtractIf, Bool.false_eq_true, if_false, clampNonneg_ofInt hInput,
    clampNonneg_ofInt hOutput]

/-- The expression part of a settlement depends on the parameters through the expression. -/
theorem tryTieredSettle_congr {run : ExprRunner}
    (h : ∀ snap, info.tieredBillingSnapshot = some snap → ∀ request,
      run snap.exprString params request = run snap.exprString params' request) :
    tryTieredSettle run info params = tryTieredSettle run info params' := by
  unfold tryTieredSettle
  cases hSnap : info.tieredBillingSnapshot with
  | none => rfl
  | some snap =>
    simp only [computeTieredQuotaWithRequest, runExprWithRequest, h snap hSnap]

def identifierExpressions : BillingExpressions where
  run expr params _ := (params.get? expr).map fun value => (value, "")
  usedVars expr name := expr = name
  reads _ h := by rw [h _ (decide_eq_true rfl)]

def identifierInfo (expr : String) : RelayInfo where
  tieredBillingSnapshot := some {
    billingMode := "tiered_expr", exprString := expr, groupRatio := .finite 1
    estimatedQuotaAfterGroup := 0, estimatedTier := "", quotaPerUnit := .finite 1000000 }

def spokenTurn : RealtimeUsage where
  totalTokens := 5
  inputTokens := 3
  outputTokens := 2
  inputTokenDetails := { textTokens := 1, audioTokens := 2 }
  outputTokenDetails := { textTokens := 2 }

def spokenCompletion : Usage where
  totalTokens := 5
  promptTokens := 3
  completionTokens := 2
  promptTokensDetails := { textTokens := 1, audioTokens := 2 }
  completionTokenDetails := { textTokens := 2 }

theorem spoken_sameCounts : SameCounts spokenTurn spokenCompletion :=
  ⟨rfl, rfl, rfl, rfl, rfl, rfl, rfl⟩

end XyApi.Pricing
