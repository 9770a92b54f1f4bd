import Mathlib.Data.List.Basic
import ServerMigration.Proofs.Cloud.Operations

/-!
# Creations of targets among other questions

The creation of a target begins with the request for its server and requests no other one.  So one
can tell from the questions and their answers where a target has been created and what the provider
has returned.

## Main definitions

* `RequestsNoServer` : questions and answers without a request for a server.
* `Provider.Returned` : in the course of these questions a target has been created.

## Main results

* `Provider.returned_append_iff` : what the only creation has returned.
-/

namespace ServerMigration

open Program

/-- A request for a server. -/
def Site.Ask.CreatesServer : Site.Ask → Prop
  | .datacenter (.createServer _) => True
  | _ => False

/-- No server is requested in the course of these questions. -/
def RequestsNoServer (trace : List (Exchange Site.Ask Site.Answer)) : Prop :=
  ∀ exchange ∈ trace, ¬exchange.1.CreatesServer

variable {trace before creation rest first second : List (Exchange Site.Ask Site.Answer)}

@[simp] theorem Site.Ask.not_createsServer_remote {host : RemoteHost} {command : String}
    {options : ExecOptions} : ¬(Site.Ask.remote host command options).CreatesServer :=
  id

@[simp] theorem Site.Ask.not_createsServer_freshId : ¬Site.Ask.freshId.CreatesServer := id

@[simp] theorem requestsNoServer_nil : RequestsNoServer [] := fun _ h => nomatch h

@[simp] theorem requestsNoServer_cons_iff {exchange : Exchange Site.Ask Site.Answer} :
    RequestsNoServer (exchange :: trace) ↔
      ¬exchange.1.CreatesServer ∧ RequestsNoServer trace :=
  List.forall_mem_cons

theorem RequestsNoServer.append (hfirst : RequestsNoServer first)
    (hsecond : RequestsNoServer second) : RequestsNoServer (first ++ second) := fun exchange hmem =>
  (List.mem_append.mp hmem).elim (hfirst exchange) (hsecond exchange)

namespace Provider

variable {provider : Provider} {spec : TargetSpec} {metadata : CloudMetadata}
  {result : Except CloudError CloudMetadata}

/-- In the course of these questions the provider has been told to create a target, and the creation
has returned this. -/
def Returned (provider : Provider) (trace : List (Exchange Site.Ask Site.Answer))
    (metadata : CloudMetadata) : Prop :=
  ∃ spec before creation rest, trace = before ++ creation ++ rest
    ∧ Program.Yields (provider.createTarget spec).run creation (.ok metadata)

/-- What is left to do when the server has been requested; it depends on its name alone. -/
def completion (provider : Provider) (name : String) (accepted : Accepted) :
    Operation CloudMetadata := do
  let _ ← provider.awaitRequest "create target" accepted.requestId
  let volumes ← call (.listVolumes accepted.id)
  let nics ← call (.listNics accepted.id)
  createTarget.liftExcept (metadataOf name accepted.id volumes nics)

/-- The creation of a target begins with the request for its server. -/
theorem createTarget_eq_ask (provider : Provider) (spec : TargetSpec) :
    (provider.createTarget spec).run
      = .ask (.datacenter (.createServer (provider.serverRequest spec)))
        (ExceptT.bindCont (provider.completion spec.name)) :=
  rfl

/-- No other server is requested. -/
theorem every_completion (provider : Provider) (name : String)
    (answer : Except CloudError Accepted) :
    Program.Every (fun question => ¬question.CreatesServer) (fun _ => True)
      (ExceptT.bindCont (provider.completion name) answer) := by
  cases answer with
  | error error => trivial
  | ok accepted =>
    refine every_operation_bind (every_awaitRequest _ _ _ id (fun _ => id) id) fun _ => ?_
    refine every_operation_bind (every_call id) fun volumes => ?_
    exact every_operation_bind (every_call id) fun nics => trivial

/-- The request for its server, and then no other one. -/
theorem exists_of_yields_createTarget
    (run : Program.Yields (provider.createTarget spec).run trace result) :
    ∃ answer onward,
      trace = ⟨.datacenter (.createServer (provider.serverRequest spec)), answer⟩ :: onward
      ∧ Program.Yields (ExceptT.bindCont (provider.completion spec.name) answer) onward result
      ∧ RequestsNoServer onward := by
  rw [createTarget_eq_ask] at run
  obtain ⟨answer, onward, rfl, hrest⟩ := yields_ask_iff.mp run
  exact ⟨answer, onward, rfl, hrest, ((every_completion _ _ _).of_yields hrest).1⟩

/-- Without a request nothing is returned. -/
theorem not_returned (h : RequestsNoServer trace) : ¬provider.Returned trace metadata := by
  rintro ⟨spec, before, creation, rest, rfl, run⟩
  obtain ⟨answer, onward, rfl, -⟩ := exists_of_yields_createTarget run
  exact h ⟨.datacenter (.createServer (provider.serverRequest spec)), answer⟩ (by simp) trivial

/-- **If a target is created once in the course of these questions, that creation has returned what
has been returned.** -/
theorem returned_append_iff (hbefore : RequestsNoServer before) (hrest : RequestsNoServer rest)
    (run : Program.Yields (provider.createTarget spec).run creation result) :
    provider.Returned (before ++ creation ++ rest) metadata ↔ result = .ok metadata := by
  constructor
  · rintro ⟨spec', before', creation', rest', same, run'⟩
    obtain ⟨answer, onward, rfl, hrun, honward⟩ := exists_of_yields_createTarget run
    obtain ⟨answer', onward', rfl, hrun', -⟩ := exists_of_yields_createTarget run'
    -- The only request is where either creation begins.
    have hnotBefore : (⟨.datacenter (.createServer (provider.serverRequest spec')), answer'⟩ :
        Exchange Site.Ask Site.Answer) ∉ before := fun h => hbefore _ h trivial
    have hnotOnward : (⟨.datacenter (.createServer (provider.serverRequest spec')), answer'⟩ :
        Exchange Site.Ask Site.Answer) ∉ onward ++ rest :=
      fun h => honward.append hrest _ h trivial
    rw [List.append_assoc, List.append_assoc, List.cons_append, List.cons_append,
      List.append_cons_inj_of_notMem hnotBefore hnotOnward] at same
    obtain ⟨-, hrequest, honwards⟩ := same
    obtain ⟨hasked, hanswer⟩ := Sigma.mk.inj hrequest
    have hname : spec.name = spec'.name := by
      injection hasked with hcall
      injection hcall with hserver
      exact congrArg ServerRequest.name hserver
    have hanswer : answer = answer' := eq_of_heq hanswer
    rw [hname, hanswer] at hrun
    exact (hrun.unique hrun' honwards).2
  · rintro rfl
    exact ⟨spec, before, creation, rest, rfl, run⟩

end Provider

end ServerMigration
