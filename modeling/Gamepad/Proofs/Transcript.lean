import Gamepad.Proofs.Poll

/-!
# Transcripts

The transcript of a run lists what its successful polls show.  The filtered values of one line along
it are the trail of the record of the line.
-/

namespace Gamepad

/-- What a successful poll shows: the reading of the counter, the snapshot before and after the
filter, the state that was emitted and the lock flag afterwards. -/
structure Observation where
  now : Tick
  raw : Snapshot
  filtered : Snapshot
  state : ControllerState
  locked : Bool

def Observation.sighting (o : Observation) (l : Line) : Sighting :=
  ⟨o.raw.get l, o.now⟩

/-- The filtered values of a line are the values of the trail of its record. -/
def FollowsRecord
    (dwell : UInt64) (l : Line) (record : Accepted) (seen : List Observation) : Prop :=
  seen.map (fun o => o.filtered.get l) =
    (record.trail dwell (seen.map fun o => o.sighting l)).map Accepted.value

theorem FollowsRecord.cons
    {dwell : UInt64} {l : Line} {record : Accepted} {o : Observation} {rest : List Observation}
    (hrest : FollowsRecord dwell l (record.observe dwell (o.raw.get l) o.now) rest)
    (hvalue : o.filtered.get l = (record.observe dwell (o.raw.get l) o.now).value) :
    FollowsRecord dwell l record (o :: rest) := by
  unfold FollowsRecord at hrest ⊢
  simp only [List.map_cons, Accepted.trail, Observation.sighting]
  rw [hvalue, hrest]
  rfl

theorem FollowsRecord.split
    {dwell : UInt64} {l : Line} {record : Accepted} {before rest : List Observation}
    (hfollows : FollowsRecord dwell l record (before ++ rest)) :
    FollowsRecord dwell l record before ∧
      FollowsRecord dwell l
        (record.final dwell (before.map fun o => o.sighting l)) rest := by
  unfold FollowsRecord at hfollows
  rw [List.map_append, List.map_append, Accepted.trail_append, List.map_append] at hfollows
  exact List.append_inj hfollows (by simp)

namespace Core

def observation? (core : Core) : Action → Option Observation
  | .setLocked _ => none
  | .poll cycle =>
    match cycle.reading, (core.poll cycle).answer with
    | .ok raw, .ok state =>
      some {
        now := cycle.now
        raw := raw
        filtered := core.filtered raw cycle.now
        state := state
        locked := (core.poll cycle).next.lock.locked }
    | _, _ => none

def transcript (core : Core) : List Action → List Observation
  | [] => []
  | action :: rest =>
    (core.observation? action).toList ++ (core.act action).next.transcript rest

@[simp]
theorem transcript_nil (core : Core) : core.transcript [] = [] := rfl

theorem transcript_cons (core : Core) (action : Action) (rest : List Action) :
    core.transcript (action :: rest) =
      (core.observation? action).toList ++ (core.act action).next.transcript rest := rfl

theorem transcript_append (core : Core) (before rest : List Action) :
    core.transcript (before ++ rest) =
      core.transcript before ++ (core.after before).transcript rest := by
  induction before generalizing core with
  | nil => rfl
  | cons action before ih =>
      have hafter : core.after (action :: before) = (core.act action).next.after before := rfl
      rw [List.cons_append, transcript_cons, transcript_cons, ih, hafter, List.append_assoc]

/-- An action either shows nothing and leaves lines, settings and records alone, or it is a poll
whose reading every record observes. -/
theorem act_cases (core : Core) (action : Action) :
    (core.observation? action = none ∧
        ((core.act action).next = core ∨
          ∃ locked, action = .setLocked locked ∧
            (core.act action).next = { core with lock := ⟨locked⟩ })) ∨
      ∃ raw now payload,
        action = .poll ⟨.ok raw, now, payload⟩ ∧
        core.observation? action = some {
          now := now
          raw := raw
          filtered := core.filtered raw now
          state := core.emitted raw now payload
          locked := (core.gateAfter raw now).locked } ∧
        (core.act action).next =
          { core with
            history := core.history.observe core.settings.dwell raw now
            lock := core.gateAfter raw now } := by
  cases action with
  | setLocked locked => exact .inl ⟨rfl, .inr ⟨locked, rfl, rfl⟩⟩
  | poll cycle =>
      obtain ⟨reading, now, payload⟩ := cycle
      cases reading with
      | error fault => exact .inl ⟨rfl, .inl rfl⟩
      | ok raw => exact .inr ⟨raw, now, payload, rfl, rfl, rfl⟩

theorem act_frame (core : Core) (action : Action) :
    (core.act action).next.lines = core.lines ∧
      (core.act action).next.settings = core.settings ∧
      (core.observation? action = none →
        (core.act action).next.history = core.history) := by
  rcases core.act_cases action with
    ⟨_, hsame | ⟨locked, _, hset⟩⟩ | ⟨raw, now, payload, _, hshown, hnext⟩
  · rw [hsame]
    exact ⟨rfl, rfl, fun _ => rfl⟩
  · rw [hset]
    exact ⟨rfl, rfl, fun _ => rfl⟩
  · rw [hnext]
    refine ⟨rfl, rfl, ?_⟩
    intro hnone
    rw [hshown] at hnone
    simp at hnone

theorem after_settings (core : Core) (actions : List Action) :
    (core.after actions).settings = core.settings := by
  induction actions generalizing core with
  | nil => rfl
  | cons action rest ih =>
      have hafter : core.after (action :: rest) = (core.act action).next.after rest := rfl
      rw [hafter, ih, (core.act_frame action).2.1]

theorem transcript_follows (core : Core) (actions : List Action) (l : Line) :
    FollowsRecord core.settings.dwell l (core.history.get l) (core.transcript actions) := by
  induction actions generalizing core with
  | nil => rfl
  | cons action rest ih =>
      obtain ⟨_, hsettings, hhistory⟩ := core.act_frame action
      have hrest := ih (core.act action).next
      rw [hsettings] at hrest
      rw [transcript_cons]
      rcases core.act_cases action with
        ⟨hnone, _⟩ | ⟨raw, now, payload, _, hshown, hnext⟩
      · rw [hhistory hnone] at hrest
        rw [hnone]
        exact hrest
      · have hrecord : (core.act action).next.history.get l =
            (core.history.get l).observe core.settings.dwell (raw.get l) now := by
          rw [hnext]
          exact History.observe_get _ _ _ _ _
        rw [hrecord] at hrest
        rw [hshown]
        exact hrest.cons (core.filtered_get raw now l)

theorem transcript_shows
    (core : Core) (actions : List Action) {o : Observation}
    (hmem : o ∈ core.transcript actions) :
    (∀ b : Button, b.isMenu = false → o.state.buttons.get b = o.filtered.get (.button b)) ∧
      (core.lines.contains (.mode .lock) = true → o.locked = o.filtered.get (.mode .lock)) := by
  induction actions generalizing core with
  | nil => simp at hmem
  | cons action rest ih =>
      obtain ⟨hlines, _, _⟩ := core.act_frame action
      have hrest := ih (core.act action).next
      rw [hlines] at hrest
      rw [transcript_cons] at hmem
      rcases List.mem_append.mp hmem with hfirst | hlater
      · rcases core.act_cases action with
          ⟨hnone, _⟩ | ⟨raw, now, payload, _, hshown, _⟩
        · rw [hnone] at hfirst
          simp at hfirst
        · rw [hshown, Option.mem_toList, Option.some.injEq] at hfirst
          subst hfirst
          constructor
          · intro b hb
            simp only
            rw [emitted_button, hb]
            simp
          · intro hwired
            simp only
            rw [gateAfter_locked, if_pos hwired]
      · exact hrest hlater

theorem locked_after
    (core : Core) (actions : List Action)
    (hmanual : ∀ locked, Action.setLocked locked ∉ actions) :
    (core.after actions).lock.locked =
      (((core.transcript actions).getLast?.map Observation.locked).getD core.lock.locked) := by
  induction actions generalizing core with
  | nil => rfl
  | cons action rest ih =>
      have hrest := ih (core.act action).next
        (fun locked hmem => hmanual locked (List.mem_cons_of_mem _ hmem))
      have hafter : core.after (action :: rest) = (core.act action).next.after rest := rfl
      rw [hafter, hrest, transcript_cons]
      rcases core.act_cases action with
        ⟨hnone, hsame | ⟨locked, hset, _⟩⟩ | ⟨raw, now, payload, _, hshown, hnext⟩
      · rw [hnone, hsame]
        rfl
      · exact absurd (hset ▸ List.mem_cons_self) (hmanual locked)
      · rw [hshown, Option.toList_some, List.singleton_append, List.getLast?_cons]
        cases ((core.act action).next.transcript rest).getLast? with
        | none =>
            rw [hnext]
            rfl
        | some o => rfl

end Core

end Gamepad
