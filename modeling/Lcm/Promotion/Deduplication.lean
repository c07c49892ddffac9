import Lcm.Text.JsNumber
import Lcm.Text.JsString

namespace Lcm.Promotion
open Text

inductive Backend where
  | sqlite
  | postgresql
  deriving DecidableEq

/-- What a promotion catches: a failed storage operation, or another error. -/
inductive PromotionFailure where
  | storage (message : String)
  | error (message : String)
  deriving DecidableEq

/-- What deduplication reads of a memory. -/
structure PromotedCandidate (Number : Type) where
  id : JsString
  content : JsString
  tags : List JsString
  confidence : Number

structure PromotedInsert (Number : Type) where
  content : JsString
  tags : List JsString
  sourceProjectId : Option JsString
  sessionId : Option JsString
  depth : Number
  confidence : Number

/-- The repositories of a transaction on a store of memories. -/
structure PromotedRepositories (Store Number : Type) where
  serializeDecision : Store → Except PromotionFailure Unit
  searchPromoted : JsString → Number → Option JsString → Store →
    Except PromotionFailure (List (PromotedCandidate Number))
  findExactContent : JsString → Option JsString → Store →
    Except PromotionFailure (Option (PromotedCandidate Number))
  insert : PromotedInsert Number → Store → Except PromotionFailure (JsString × Store)
  update : JsString → Number → List JsString → Store → Except PromotionFailure (Unit × Store)
  archive : JsString → Store → Except PromotionFailure (Unit × Store)

inductive CandidateScope where
  | source
  | owner
  deriving DecidableEq

structure DedupInsertInput (Number : Type) where
  content : JsString
  tags : List JsString
  sourceProjectId : Option JsString
  candidateScope : CandidateScope
  backend : Backend
  sessionId : Option JsString
  depth : Number
  confidence : Number
  newEntryConfidence : Option Number
  dedupCandidateLimit : Number

section Deduplication

variable {Store Number : Type} (numbers : JsNumbers Number)
  (repositories : PromotedRepositories Store Number)

/-- Only the same content may merge. -/
def isDuplicateCandidate (content : JsString) (candidate : PromotedCandidate Number) : Bool :=
  candidate.content = content

/-- The first of two numbers, unless the second is greater. -/
def maxNumber (first second : Number) : Number := if numbers.less first second then second else first

def reading {Value : Type} (query : Store → Except PromotionFailure Value) :
    StateT Store (Except PromotionFailure) Value :=
  fun store => (query store).map fun value => (value, store)

def deduplicateAndInsertInRepositories (input : DedupInsertInput Number) (existingOnly : Bool) :
    StateT Store (Except PromotionFailure) (Option JsString) := do
  reading repositories.serializeDecision
  let candidateSourceProjectId :=
    if input.candidateScope = .owner ∧ input.backend = .postgresql then none else input.sourceProjectId
  let candidates ← reading (repositories.searchPromoted input.content input.dedupCandidateLimit
    candidateSourceProjectId)
  let exact' ← match input.candidateScope with
    | .owner => reading (repositories.findExactContent input.content candidateSourceProjectId)
    | .source => pure none
  let combinedCandidates := exact'.toList.filter (fun candidate =>
    candidate.id ∉ candidates.map (·.id)) ++ candidates
  match combinedCandidates.filter (isDuplicateCandidate input.content) with
  | [] =>
      if existingOnly then pure none
      else some <$> repositories.insert ⟨input.content, input.tags, input.sourceProjectId,
        input.sessionId, input.depth, input.newEntryConfidence.getD input.confidence⟩
  | canonical :: others => do
      let refreshedConfidence := (canonical :: others).foldl (fun most duplicate =>
        maxNumber numbers most duplicate.confidence) input.confidence
      let mergedTags := dedupeOrdered (canonical.tags ++ others.flatMap (·.tags) ++ input.tags)
      repositories.update canonical.id refreshedConfidence mergedTags
      others.forM fun duplicate => repositories.archive duplicate.id
      pure (some canonical.id)

end Deduplication

end Lcm.Promotion
