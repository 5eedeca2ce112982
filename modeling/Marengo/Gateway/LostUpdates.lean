import Marengo.Gateway.Handling

/-!
# Limits that an accepted request has set

What a request leaves out is filled from the disk, but what stays is the live limit. Both agree where
everything that was accepted is on disk when the runtime handles the command (`Quiet`), since the
runtime refuses a command whose revision is no longer that of the disk. Runs like that are `Orderly`.
In them the live limits are those of the last accepted write and have the last value that an accepted
request has asked for (`Kept`).

A request that is handled while an earlier one waits for its write passes both revision checks, and
brings back the limits of the disk.
-/

namespace Marengo

variable {K : Type}

section
variable [Field K] [LinearOrder K] [ExactWorld K]

/-! ## Orderly runs -/

/-- Everything accepted is on disk. -/
def LimitSystem.Quiet (s : LimitSystem K) : Prop :=
  s.queue.slot.request = none ∧ s.queue.stage.unwritten = none ∧ s.queue.Spotless

/-- The runtime accepts a command only while everything accepted before is on disk, for a joint that
is wired under its own name, with soft bounds inside the hard ones. A rollback succeeds. -/
structure LimitSystem.HandlesOrderly (site : LimitSite K) (s : LimitSystem K)
    (command : OperatorCommand K) (unreadable : Option ConfigError) : Prop where
  accepted : (s.handled site command unreadable).1.isOk = true →
    s.Quiet ∧ resolveCommandJoint command.patch.joint site.allowlist = some command.patch.joint ∧
      command.patch.SoftInside
  restored : ∀ dir error cause,
    (s.handled site command unreadable).1 ≠ .error (.rollback dir error cause)

/-- What the gateway has read is still on disk when it checks the revision, and the runtime handles
the command in order. -/
def LimitSystem.Orderly (site : LimitSite K) (s : LimitSystem K) : LimitAction K → Prop
  | .check i _ _ _ _ => ∀ request before, s.requests[i]? = some (request, .limitsRead before) →
      limitPatchFromMotor site.configDir (s.disk site).motors (s.disk site).control request.joint =
        .ok before
  | .handle k unreadable => ∀ sent, s.commands[k]? = some sent →
      s.HandlesOrderly site sent.command unreadable
  | _ => True

/-- Profiles with one revision have the same limits. -/
def Distinguishes (site : LimitSite K) (disks : List (ProfileFiles K)) : Prop :=
  ∀ f ∈ disks, ∀ g ∈ disks, site.revision f = site.revision g →
    ∀ joint field, limitOf f.motors f.control joint field = limitOf g.motors g.control joint field

/-- The patch of a command is the request, filled from a profile that has the expected revision. -/
def Sourced (site : LimitSite K) (disks : List (ProfileFiles K)) (sent : SentPatch K) : Prop :=
  ∃ profile ∈ disks, site.revision profile = sent.command.expectedRevision ∧
    ∃ before, limitPatchFromMotor site.configDir profile.motors profile.control sent.request.joint =
      .ok before ∧ sent.command.patch = mergeRequestLimits before sent.request

/-- The live limits are those of the last accepted write, and have what the accepted requests have
asked for. -/
structure Kept (site : LimitSite K) (loaded : ProfileFiles K) (s : LimitSystem K) : Prop where
  snapshots : Snapshots site.configDir loaded s.queue.accepted
  current : Current site.configDir loaded s.queue
  live : s.owner.limitConfig =
    (newestMotors loaded s.queue.accepted, lastControl loaded s.queue.accepted)
  commands : ∀ sent ∈ s.commands, Sourced site s.disks sent
  disk : s.disk site ∈ s.disks
  asked : ∀ joint field v, lastAsked s.accepted joint field = some v →
    limitOf s.owner.motors s.owner.control joint field = some v

variable {site : LimitSite K} {loaded : ProfileFiles K} {s : LimitSystem K}

namespace Kept

variable (h : Kept site loaded s)
include h

theorem gateway {requests : List (LimitPatchRequest K × PatchStage K)}
    {commands : List (SentPatch K)} (hcommands : ∀ sent ∈ commands, Sourced site s.disks sent) :
    Kept site loaded { s with requests := requests, commands := commands } :=
  { h with commands := hcommands }

theorem check {i : ℕ} {request : LimitPatchRequest K}
    {before : LimitPatch K} {unreadable unsent : Option String} {timestampMs : ℕ} {sessionId : String}
    (hread : limitPatchFromMotor site.configDir (s.disk site).motors (s.disk site).control
      request.joint = .ok before) :
    Kept site loaded
      (s.checkRevision site i request before unreadable timestampMs sessionId unsent) := by
  unfold LimitSystem.checkRevision
  split
  · exact h.gateway h.commands
  dsimp only
  split
  · exact h.gateway h.commands
  split
  · exact h.gateway h.commands
  rename_i hrevision
  split
  · exact h.gateway h.commands
  refine h.gateway fun sent hsent => ?_
  rcases List.mem_append.mp hsent with hsent | hsent
  · exact h.commands sent hsent
  · cases List.mem_singleton.mp hsent
    exact ⟨s.disk site, h.disk, (not_not.mp hrevision).symm, before, hread, rfl⟩

/-- A step of the runtime that accepts nothing. -/
theorem unaccepted {owner : System K} {queue : PersistSystem K}
    {commands : List (SentPatch K)} (howner : owner.limitConfig = s.owner.limitConfig)
    (hqueue : queue.accepted = s.queue.accepted) (hcurrent : Current site.configDir loaded queue)
    (hfiles : queue.files = s.queue.files) (hcommands : commands ⊆ s.commands) :
    Kept site loaded { s with owner := owner, queue := queue, commands := commands } where
  snapshots := by
    rw [hqueue]
    exact h.snapshots
  current := hcurrent
  live := by
    rw [hqueue]
    exact howner.trans h.live
  commands := fun sent hsent => h.commands sent (hcommands hsent)
  disk := by
    rw [LimitSystem.disk, hfiles]
    exact h.disk
  asked := by
    rw [System.limitConfig, System.limitConfig, Prod.mk.injEq] at howner
    rw [howner.1, howner.2]
    exact h.asked

/-- A quiet system has the live limits on disk. -/
theorem quiet (hquiet : s.Quiet) :
    s.owner.limitConfig = ((s.disk site).motors, (s.disk site).control) := by
  obtain ⟨hempty, hwritten, hspotless⟩ := hquiet
  have hcontrol := h.current.control hspotless
  have hmotors := h.current.motors hspotless
  rw [PersistSystem.latestControl, hempty, hwritten] at hcontrol
  rw [PersistSystem.latestMotors, hempty, hwritten] at hmotors
  rw [h.live, ← hcontrol, ← hmotors]
  rfl

/-- A command that a quiet runtime handles has the live limits where its request asks for none. -/
theorem filled (hrevisions : Distinguishes site s.disks)
    {sent : SentPatch K} (hsent : Sourced site s.disks sent) (hquiet : s.Quiet)
    (hcurrent : sent.command.expectedRevision = site.revision (s.disk site)) :
    sent.command.patch.joint = sent.request.joint ∧ ∀ field, sent.command.patch.limit field =
      (sent.request.asks field).or
        (limitOf s.owner.motors s.owner.control sent.request.joint field) := by
  obtain ⟨profile, hprofile, hrevision, before, hbefore, hpatch⟩ := hsent
  obtain ⟨hjoint, hlimits⟩ := limitPatchFromMotor_ok hbefore
  have hlive := h.quiet hquiet
  rw [System.limitConfig, Prod.mk.injEq] at hlive
  rw [hpatch]
  refine ⟨hjoint, fun field => ?_⟩
  rw [merge_limit, hlimits, hrevisions profile hprofile (s.disk site) h.disk
    (hrevision.trans hcurrent), ← hlive.1, ← hlive.2]

/-- A request that asks for a limit, or leaves it, has it in the command. -/
theorem lastAsked_accepted {request : LimitPatchRequest K}
    {patch : LimitPatch K} (hfilled : ∀ field, patch.limit field = (request.asks field).or
      (limitOf s.owner.motors s.owner.control request.joint field)) {field : LimitField} {v : K}
    (hv : lastAsked (s.accepted ++ [request]) request.joint field = some v) :
    patch.limit field = some v := by
  rw [lastAsked_concat, if_pos rfl] at hv
  rw [hfilled]
  cases hasks : request.asks field with
  | some w =>
    rw [hasks, Option.some_or] at hv
    rw [Option.some_or, hv]
  | none =>
    rw [hasks, Option.none_or] at hv
    rw [Option.none_or, h.asked _ _ _ hv]

/-- A patch that the runtime accepts. -/
theorem applied (hrevisions : Distinguishes site s.disks)
    {sent : SentPatch K} (hsent : Sourced site s.disks sent) (hquiet : s.Quiet)
    (hinside : sent.command.patch.SoftInside) {candidate : LimitCandidate K} {owner : System K}
    (hcurrent : sent.command.expectedRevision = site.revision (s.disk site))
    (hpatched : Patched sent.command.patch.ensureSoftInset s.owner.motors s.owner.control candidate)
    (hinstalled : owner.limitConfig = (candidate.motors, candidate.control))
    (hqueued : (s.queue.enqueue
      (patchRequest site sent.command sent.command.patch.joint owner)).1 = .ok ())
    {commands : List (SentPatch K)} (hcommands : commands ⊆ s.commands) :
    Kept site loaded { s with
      owner := owner
      queue := (s.queue.enqueue (patchRequest site sent.command sent.command.patch.joint owner)).2
      commands := commands
      accepted := s.accepted ++ [sent.request] } := by
  obtain ⟨hjoint, hfilled⟩ := h.filled hrevisions hsent hquiet hcurrent
  have hlive : LivePatch (newestMotors loaded s.queue.accepted) (lastControl loaded s.queue.accepted)
      (patchRequest site sent.command sent.command.patch.joint owner) := by
    have hconfig := h.live
    rw [System.limitConfig, Prod.mk.injEq] at hconfig
    rw [← hconfig.1, ← hconfig.2]
    exact hpatched.live hinstalled
  have haccepted := (enqueue_accepted s.queue
    (patchRequest site sent.command sent.command.patch.joint owner)).trans
    (if_pos (by rw [hqueued]; rfl))
  have hsnapshots : Snapshots site.configDir loaded (s.queue.enqueue
      (patchRequest site sent.command sent.command.patch.joint owner)).2.accepted := by
    rw [haccepted]
    refine h.snapshots.concat rfl (fun _ => hlive) fun hsave => ?_
    simp [PersistRequest.isPatch, patchRequest] at hsave
  refine ⟨hsnapshots, h.current.act (.enqueue _) hsnapshots, ?_, ?_, ?_, ?_⟩
  · rw [haccepted, newestMotors_snoc, lastControl_snoc]
    rfl
  · exact fun sent' hsent' => h.commands sent' (hcommands hsent')
  · rw [LimitSystem.disk, enqueue_files]
    exact h.disk
  · intro joint field v hv
    rw [System.limitConfig, Prod.mk.injEq] at hinstalled
    dsimp only at hv ⊢
    rw [hinstalled.1, hinstalled.2]
    by_cases hother : joint = sent.request.joint
    · subst hother
      rw [← hjoint]
      have hlimit := lastAsked_accepted h hfilled hv
      exact hpatched.limit (ensureSoftInset_limit hlimit) fun hsoft => hinside field v hsoft hlimit
    · rw [lastAsked_concat, if_neg (Ne.symm hother), Option.none_or] at hv
      have hne : joint ≠ sent.command.patch.ensureSoftInset.joint := by
        rw [← hjoint] at hother
        exact hother
      obtain ⟨hmotor, hentry⟩ := hpatched.others hne
      have hkept := h.asked joint field v hv
      cases field <;> simpa only [limitOf, hmotor, hentry] using hkept

/-- The events of the runtime do not matter. -/
theorem publish (event : ℕ → ActionEvent) :
    Kept site loaded { s with toLimitRuntime := s.toLimitRuntime.publish event } :=
  h.unaccepted rfl rfl (h.current.still rfl rfl rfl rfl rfl) rfl (List.Subset.refl _)

theorem handle (hrevisions : Distinguishes site s.disks) {k : ℕ}
    {unreadable : Option ConfigError} (horderly : s.Orderly site (.handle k unreadable)) :
    Kept site loaded (s.act site (.handle k unreadable)) := by
  rw [LimitSystem.act]
  split
  · exact h
  · rename_i sent hsent
    obtain ⟨haccepted, hrestored⟩ := horderly sent hsent
    have hmem := List.mem_of_getElem? hsent
    have hhandles := applyOperatorCommand_handles site sent.command unreadable s.toLimitRuntime
    unfold LimitSystem.handled at haccepted hrestored ⊢
    unfold LimitRuntime.drain
    have herase : s.commands.eraseIdx k ⊆ s.commands := List.eraseIdx_subset ..
    generalize applyOperatorCommand site sent.command unreadable s.toLimitRuntime = result at *
    obtain ⟨r, self⟩ := result
    cases hhandles with
    | refused error owner same =>
      exact (h.unaccepted same rfl h.current rfl herase).publish _
    | undone error cause owner request same refused =>
      have hqueue : (s.queue.enqueue request).2.accepted = s.queue.accepted :=
        (enqueue_accepted s.queue request).trans
          (if_neg (by rw [refused]; exact Bool.false_ne_true))
      have hcurrent := h.current.act (.enqueue request) (by
        rw [act_enqueue, hqueue]
        exact h.snapshots)
      exact (h.unaccepted same hqueue hcurrent (enqueue_files ..) herase).publish _
    | stuck dir error cause self => exact absurd rfl (hrestored dir error cause)
    | applied revision joint candidate owner wired current patched installed queued =>
      obtain ⟨hquiet, hwired, hinside⟩ := haccepted rfl
      cases wired.symm.trans hwired
      exact (h.applied hrevisions (h.commands sent hmem) hquiet hinside current patched installed
        queued herase).publish _

end Kept

theorem Kept.start (owner : System K) (files : String → ProfileFiles K)
    (hloaded : owner.limitConfig = ((files site.configDir).motors, (files site.configDir).control)) :
    Kept site (files site.configDir) (LimitSystem.start site owner files) where
  snapshots := .nil
  current := .spawn files
  live := hloaded
  commands := List.forall_mem_nil _
  disk := List.mem_singleton_self _
  asked := by
    intro joint field v hv
    cases hv

theorem Kept.act (h : Kept site loaded s) (hrevisions : Distinguishes site s.disks)
    {action : LimitAction K} (horderly : s.Orderly site action) :
    Kept site loaded (s.act site action) := by
  cases action with
  | ask request => exact h.gateway h.commands
  | readMotors i failure =>
    rw [LimitSystem.act]
    split
    · split <;> exact h.gateway h.commands
    · exact h
  | readControl i failure =>
    rw [LimitSystem.act]
    split
    · split
      · exact h.gateway h.commands
      · split <;> exact h.gateway h.commands
    · exact h
  | check i unreadable timestampMs sessionId unsent =>
    rw [LimitSystem.act]
    split
    · rename_i request before hstage
      exact h.check (horderly request before hstage)
    · exact h
  | hear i event =>
    rw [LimitSystem.act]
    split
    · rename_i request stage hstage
      cases stage with
      | sent sessionId =>
        rw [LimitSystem.hear]
        split
        · exact h.gateway h.commands
        · exact h
      | applied sessionId =>
        rw [LimitSystem.hear]
        split
        · exact h.gateway h.commands
        · exact h
      | _ => exact h
    · exact h
  | runtime owner => exact h.unaccepted rfl rfl h.current rfl (List.Subset.refl _)
  | handle k unreadable => exact h.handle hrevisions horderly
  | work input =>
    have hsnapshots := h.snapshots
    have hlive := h.live
    rw [← work_accepted s.queue input] at hsnapshots hlive
    refine ⟨hsnapshots, h.current.work input, hlive, fun sent hsent => ?_, ?_, h.asked⟩
    · obtain ⟨profile, hprofile, hsourced⟩ := h.commands sent hsent
      exact ⟨profile, List.mem_append_left _ hprofile, hsourced⟩
    · exact List.mem_append_right _ (List.mem_singleton_self _)
  | closeAdmission =>
    exact h.unaccepted rfl rfl (h.current.still rfl rfl rfl rfl rfl) rfl (List.Subset.refl _)
  | drop => exact h.unaccepted rfl rfl (h.current.still rfl rfl rfl rfl rfl) rfl (List.Subset.refl _)

theorem act_disks (site : LimitSite K) (s : LimitSystem K) (action : LimitAction K) :
    s.disks ⊆ (s.act site action).disks := by
  have hsame : ∀ {s' : LimitSystem K}, s'.disks = s.disks → s.disks ⊆ s'.disks := by
    intro s' h
    rw [h]
    exact List.Subset.refl _
  cases action with
  | work input => exact List.subset_append_left ..
  | check i unreadable timestampMs sessionId unsent =>
    apply hsame
    rw [LimitSystem.act]
    split
    · unfold LimitSystem.checkRevision
      dsimp only
      repeat' split
      all_goals rfl
    · rfl
  | hear i event =>
    apply hsame
    rw [LimitSystem.act]
    split
    · unfold LimitSystem.hear
      repeat' split
      all_goals rfl
    · rfl
  | _ =>
    apply hsame
    rw [LimitSystem.act]
    repeat' split
    all_goals rfl

theorem Kept.run {owner : System K} {files : String → ProfileFiles K}
    (hloaded : owner.limitConfig = ((files site.configDir).motors, (files site.configDir).control))
    {actions : List (LimitAction K)}
    (horderly : History.Follows (fun before action =>
      ((LimitSystem.start site owner files).run site before).Orderly site action) [] actions)
    (hrevisions : Distinguishes site ((LimitSystem.start site owner files).run site actions).disks) :
    Kept site (files site.configDir) ((LimitSystem.start site owner files).run site actions) := by
  induction actions using List.reverseRecOn with
  | nil => exact .start owner files hloaded
  | append_singleton actions action ih =>
    obtain ⟨hbefore, hlast, -⟩ := History.follows_append.mp horderly
    rw [LimitSystem.run, List.foldl_append] at hrevisions ⊢
    have hearlier : Distinguishes site
        ((LimitSystem.start site owner files).run site actions).disks := by
      intro f hf g hg
      exact hrevisions f (act_disks site _ action hf) g (act_disks site _ action hg)
    exact (ih hbefore hearlier).act hearlier hlast

end

/-! ## Requests on the bench -/

namespace Bench

/-- The elbow rests at zero, and its pose is fresh. -/
def restingOwner : System ℚ :=
  { @construct ℚ world (installation world world_validates world_derives)
      (@OwnerKind.simulated ℚ world none) 0 with
    motorStates := fun _ => some ⟨0, 0, 0, 25, 0, some 0⟩ }

def profile : ProfileFiles ℚ := ⟨motors, control⟩

/-- A site whose revision tells the loaded profile from those with another lower limit. -/
def site : LimitSite ℚ where
  configDir := "profile"
  revision files :=
    if limitOf files.motors files.control "elbow" .positionLower = some (-2) then "loaded"
    else "changed"
  allowlist := ["elbow"]

def raiseLower : LimitPatchRequest ℚ :=
  ⟨"elbow", "operator", "loaded", some (-1), none, none, none, none, none⟩

def reduceUpper : LimitPatchRequest ℚ :=
  ⟨"elbow", "operator", "loaded", none, some 1, none, none, none, none⟩

def asking (request : LimitPatchRequest ℚ) (i : ℕ) (session : String) : List (LimitAction ℚ) :=
  [.ask request, .readMotors i none, .readControl i none, .check i none 1 session none]

/-- The system of the bench after the given steps. -/
def after [World ℚ] (actions : List (LimitAction ℚ)) : LimitSystem ℚ :=
  (LimitSystem.start site restingOwner fun _ => profile).run site actions

def single : List (LimitAction ℚ) := asking raiseLower 0 "first" ++ [.handle 0 none]

/-- The second request is handled before the first is written. -/
def overlapping : List (LimitAction ℚ) :=
  asking raiseLower 0 "first" ++ asking reduceUpper 1 "second" ++ [.handle 0 none, .handle 0 none]

end Bench

section
attribute [local instance] Bench.exact

theorem single_orderly : History.Follows (fun before action =>
    ((LimitSystem.start Bench.site Bench.restingOwner fun _ => Bench.profile).run Bench.site
      before).Orderly Bench.site action) [] Bench.single := by
  refine ⟨trivial, trivial, trivial, ?_, ?_, trivial⟩
  · rintro request before ⟨⟩
    rfl
  · rintro sent ⟨⟩
    refine ⟨fun _ => ⟨⟨rfl, rfl, List.forall_mem_nil _⟩, rfl, ?_⟩, ?_⟩
    · rintro field v (rfl | rfl) ⟨⟩
    · intro dir error cause herror
      have hrefused : _ = false := congrArg Except.isOk herror
      exact absurd hrefused (by decide +kernel)

end

end Marengo
