import FlareCore.Common.MessagePipeline
import FlareCore.Foundations.SharedCache
import FlareCore.Server.Core

/-!
# Pipelines by profile

Middlewares and processors are added to the server before it runs.  When a connection has been
negotiated, `pipeline_for_negotiation_profile` gives it a message pipeline with all of them, one
for each profile: it looks into a cache, builds a pipeline if there is none, and puts it into the
cache unless another connection has been faster.  The cache is locked for the first look and for
the last one, and free while a pipeline is built.

So the negotiations of many connections may run into each other.  Still the server gives pipelines
as a function of the profile, which is how `ServerCore` has it, and connections share a pipeline
exactly if they share the profile (`pipelines_shared`).
-/

namespace FlareCore.Server

open FlareCore.Common FlareCore.Foundations

set_option autoImplicit false

/-- What every pipeline is given, in the order of addition. -/
structure SharedSteps (Middleware Processor : Type) where
  sharedMiddlewares : List Middleware
  sharedProcessors : List Processor

inductive SharedAddition (Middleware Processor : Type) where
  | addMiddleware (middleware : Middleware)
  | addProcessor (processor : Processor)

/-- A message pipeline with the parser that it was made for. -/
structure ProfilePipeline (Middleware Processor : Type) where
  parser : MessageParser
  pipeline : MessagePipeline Middleware Processor

section Pipelines

variable {Middleware Processor : Type}

/-- `ServerCore::add_middleware` and `add_processor`; that they clear the cache is a matter of
the cache. -/
def SharedSteps.add (shared : SharedSteps Middleware Processor) :
    SharedAddition Middleware Processor → SharedSteps Middleware Processor
  | .addMiddleware middleware =>
      { shared with sharedMiddlewares := shared.sharedMiddlewares ++ [middleware] }
  | .addProcessor processor =>
      { shared with sharedProcessors := shared.sharedProcessors ++ [processor] }

variable (priority : Middleware → Nat)

/-- The pipeline that is built between the two locks. -/
def SharedSteps.pipeline (shared : SharedSteps Middleware Processor) (profile : Profile) :
    ProfilePipeline Middleware Processor where
  parser := profile.parser
  pipeline :=
    shared.sharedProcessors.foldl (fun pipeline processor => pipeline.addProcessor processor)
      (shared.sharedMiddlewares.foldl
        (fun pipeline middleware => pipeline.addMiddleware priority middleware) .new)

/-- `pipeline_for_negotiation_profile`: there is no pipeline if there is nothing to put into it. -/
def pipelineRecipe :
    Recipe (SharedSteps Middleware Processor) Profile (ProfilePipeline Middleware Processor)
      (SharedAddition Middleware Processor) where
  needed shared := !(shared.sharedMiddlewares.isEmpty && shared.sharedProcessors.isEmpty)
  build shared profile := shared.pipeline priority profile
  change := SharedSteps.add

/-- The server's lists and its cache, and the calls of `pipeline_for_negotiation_profile`. -/
abbrev PipelineCalls (Middleware Processor : Type) : Type :=
  SharedCache.Readers (SharedSteps Middleware Processor) Profile
    (ProfilePipeline Middleware Processor)

/-- Nothing has been negotiated. -/
def PipelineCalls.initial (shared : SharedSteps Middleware Processor) :
    PipelineCalls Middleware Processor where
  memory := .empty shared
  tasks := []

/-- Any number of calls, and additions between them, which need the server exclusively. -/
abbrev PipelineCalls.Reachable (shared : SharedSteps Middleware Processor)
    (calls : PipelineCalls Middleware Processor) : Prop :=
  (SharedCache.machine (pipelineRecipe priority)).Reaches SharedCache.Exclusive (initial shared)
    calls

/-- The server core that the model of a connection goes by, for an era. -/
def ServerCore.withCalls (core : ServerCore) (calls : PipelineCalls Middleware Processor)
    (era : Nat) : ServerCore where
  defaultSerializationFormat := core.defaultSerializationFormat
  defaultCompression := core.defaultCompression
  defaultEncryption := core.defaultEncryption
  authConfigured := core.authConfigured
  authenticator := core.authenticator
  pipelineForNegotiationProfile profile :=
    (calls.memory.replyTo (pipelineRecipe priority) era profile).map Item.identity

/-! ## What is in a pipeline -/

theorem foldl_addMiddleware (middlewares : List Middleware)
    {pipeline : MessagePipeline Middleware Processor} {added : List Middleware}
    (sorted : StablySorted priority pipeline.middlewares added) :
    StablySorted priority (middlewares.foldl (fun pipeline middleware =>
        pipeline.addMiddleware priority middleware) pipeline).middlewares (added ++ middlewares) ∧
      (middlewares.foldl (fun pipeline middleware =>
        pipeline.addMiddleware priority middleware) pipeline).processors = pipeline.processors := by
  induction middlewares generalizing pipeline added with
  | nil => exact ⟨by rwa [List.append_nil], rfl⟩
  | cons middleware middlewares inductionHypothesis =>
      rw [List.append_cons]
      exact inductionHypothesis (sorted.push middleware)

theorem foldl_addProcessor (processors : List Processor)
    (pipeline : MessagePipeline Middleware Processor) :
    (processors.foldl (fun pipeline processor => pipeline.addProcessor processor)
        pipeline).middlewares = pipeline.middlewares ∧
      (processors.foldl (fun pipeline processor => pipeline.addProcessor processor)
        pipeline).processors = pipeline.processors ++ processors := by
  induction processors generalizing pipeline with
  | nil => exact ⟨rfl, (List.append_nil _).symm⟩
  | cons processor processors inductionHypothesis =>
      obtain ⟨middlewares, later⟩ := inductionHypothesis (pipeline.addProcessor processor)
      refine ⟨middlewares, ?_⟩
      rw [List.foldl_cons, later, List.append_cons]
      rfl

/-- A pipeline is for a profile, and holds all middlewares in the order of their priorities, ties
in the order of addition, and all processors. -/
structure ProfilePipeline.Serves (made : ProfilePipeline Middleware Processor)
    (shared : SharedSteps Middleware Processor) (profile : Profile) : Prop where
  parser : made.parser = profile.parser
  middlewares : StablySorted priority made.pipeline.middlewares shared.sharedMiddlewares
  processors : made.pipeline.processors = shared.sharedProcessors

theorem SharedSteps.serves_pipeline (shared : SharedSteps Middleware Processor)
    (profile : Profile) : (shared.pipeline priority profile).Serves priority shared profile := by
  have nothing : StablySorted priority
      (MessagePipeline.new : MessagePipeline Middleware Processor).middlewares [] := .nil
  obtain ⟨sorted, none⟩ := foldl_addMiddleware priority shared.sharedMiddlewares nothing
  obtain ⟨middlewares, processors⟩ := foldl_addProcessor shared.sharedProcessors
    (shared.sharedMiddlewares.foldl
      (fun pipeline middleware => pipeline.addMiddleware priority middleware) .new)
  refine ⟨rfl, ?_, ?_⟩
  · unfold SharedSteps.pipeline
    rw [middlewares]
    exact sorted
  · unfold SharedSteps.pipeline
    rw [processors, none]
    rfl

theorem needed_iff (shared : SharedSteps Middleware Processor) :
    (pipelineRecipe priority).needed shared = true ↔
      shared.sharedMiddlewares ≠ [] ∨ shared.sharedProcessors ≠ [] := by
  unfold pipelineRecipe
  rw [Bool.not_eq_true', Bool.and_eq_false_iff, List.isEmpty_eq_false_iff,
    List.isEmpty_eq_false_iff]

/-! ## What connections are given -/

variable {priority} {shared : SharedSteps Middleware Processor}
  {calls : PipelineCalls Middleware Processor}

theorem PipelineCalls.Reachable.sound (reached : calls.Reachable priority shared) :
    SharedCache.Sound (pipelineRecipe priority) calls :=
  SharedCache.sound_of_reaches reached

/-- What a call has come to is the pipeline that is stored with the connection. -/
theorem PipelineCalls.Reachable.stored [Hashing] (reached : calls.Reachable priority shared)
    (core : ServerCore) {era : Nat} {profile : Profile}
    {answer : Option (Item (ProfilePipeline Middleware Processor))}
    (isAnswer : .answered era profile answer ∈ calls.tasks) {manager : ConnectionManager}
    {connectionId : String} {entry : ConnectionEntry}
    (found : manager.connections.get connectionId = some entry) (now : Instant) :
    ∃ stored, (manager.finalizeNegotiationAfterAck (core.withCalls priority calls era)
        connectionId profile now).connections.get connectionId = some stored ∧
      stored.info.cachedPipeline = answer.map Item.identity := by
  rw [ConnectionManager.finalizeNegotiationAfterAck, found, reached.sound.answer_eq isAnswer]
  exact ⟨_, ConnectionManager.get_updateConnection found _ now, rfl⟩

/-- **Pipelines are a function of the profile, and connections share one exactly if they share the
profile**, as long as nothing is added in between.  Each pipeline holds all that had been added,
and there is none exactly if nothing had.  This holds for every interleaving of the calls. -/
theorem pipelines_shared (core : ServerCore) (reached : calls.Reachable priority shared) :
    (∀ era profile answer, .answered era profile answer ∈ calls.tasks →
      (core.withCalls priority calls era).pipelineForNegotiationProfile profile =
          answer.map Item.identity ∧
        ∃ lists, calls.memory.eras[era]? = some lists ∧
          (answer.isSome ↔ lists.config.sharedMiddlewares ≠ [] ∨
            lists.config.sharedProcessors ≠ []) ∧
          ∀ item ∈ answer, item.value.Serves priority lists.config profile) ∧
    ∀ era profile item, .answered era profile (some item) ∈ calls.tasks →
      ∀ other profile' item', .answered other profile' (some item') ∈ calls.tasks →
        (item.identity = item'.identity ↔ era = other ∧ profile = profile') := by
  have sound := reached.sound
  refine ⟨fun era profile answer isAnswer => ⟨?_, ?_⟩, ?_⟩
  · rw [sound.answer_eq isAnswer]
    rfl
  · obtain ⟨lists, isEra, needed, held⟩ := sound.fits _ isAnswer
    refine ⟨lists, isEra, ?_, fun item isItem => ?_⟩
    · rw [← needed]
      exact needed_iff priority lists.config
    · rw [(sound.stocked era lists isEra profile item (held item isItem)).value]
      exact lists.config.serves_pipeline priority profile
  · intro era profile item isAnswer other profile' item' isOther
    exact sound.same_item_iff isAnswer isOther

end Pipelines

/-- Two connections are negotiated to one profile at the same time: both find nothing, and both
build a pipeline. -/
def negotiatedTogether : List (Move Profile PUnit (SharedAddition Nat Nat)) :=
  [.environment (.addMiddleware 7), .call ⟨.json, .none, .none⟩, .call ⟨.json, .none, .none⟩] ++
    [0, 1, 0, 1, 0, 1].map fun index => .advance index ⟨⟩

/-- They share the first. -/
theorem pipelines_shared_together :
    ∃ (calls : PipelineCalls Nat Nat) (first second : Item (ProfilePipeline Nat Nat)),
      calls.tasks = [.answered 1 ⟨.json, .none, .none⟩ (some first),
          .answered 1 ⟨.json, .none, .none⟩ (some second)] ∧
        calls.memory.built.length = 2 ∧ first.identity = second.identity := by
  have evaluated : ∃ memory first second,
      (SharedCache.machine (pipelineRecipe fun priority => priority)).run
          (PipelineCalls.initial ⟨[], []⟩) negotiatedTogether =
        some ⟨memory, [.answered 1 ⟨.json, .none, .none⟩ (some first),
          .answered 1 ⟨.json, .none, .none⟩ (some second)]⟩ ∧ memory.built.length = 2 :=
    ⟨_, _, _, rfl, rfl⟩
  obtain ⟨memory, first, second, isFinish, twice⟩ := evaluated
  have permitted : (SharedCache.machine (pipelineRecipe fun priority => priority)).Permits
      SharedCache.Exclusive (PipelineCalls.initial ⟨[], []⟩) negotiatedTogether := by
    decide
  have shared := (pipelines_shared ⟨.json, .none, .none, false, none, fun _ => none⟩
    (System.reaches_of_run isFinish permitted)).2
  refine ⟨⟨memory, _⟩, first, second, rfl, twice, ?_⟩
  exact (shared _ _ first (.head _) _ _ second (.tail _ (.head _))).mpr ⟨rfl, rfl⟩

end FlareCore.Server
