import ActionDispatch.Proofs.Chronicle
import ActionDispatch.Proofs.Comparison
import ActionDispatch.Proofs.Widgets

/-!
# Observers

Sinks get every event and give nothing back. A channel with a receiver holds what was emitted, in order
and each event as often as the channel is a sink, up to the moment when its receiver goes away
(`serve_hears`). And whatever the sinks are and whenever a receiver goes away, a run is the same but for
the deliveries: the same answers, lookups, session checks, handler calls and events, and the same state
but for the channels (`serve_undisturbed`).
-/

namespace ActionDispatch

variable {V : Vocabulary} {α β : Type}

/-! ### Channels -/

namespace Channel

/-- The events among these that a channel hands to its receiver: all, unless the receiver goes away
before. -/
def taken (channel : Channel) (events : List Event) : List Event :=
  match channel.stays with
  | none => events
  | some n => events.take n

/-- The channel after these events were sent, in order. -/
def sendAll (channel : Channel) (events : List Event) : Channel :=
  events.foldl (fun channel event => (channel.send event).1) channel

@[simp] theorem sendAll_nil (channel : Channel) : channel.sendAll [] = channel := rfl

theorem sendAll_cons (channel : Channel) (event : Event) (events : List Event) :
    channel.sendAll (event :: events) = (channel.send event).1.sendAll events := rfl

theorem sendAll_append (channel : Channel) (before after : List Event) :
    channel.sendAll (before ++ after) = (channel.sendAll before).sendAll after :=
  List.foldl_append

/-- Nothing is lost, added or moved before the receiver goes away, and nothing comes after that. -/
theorem sendAll_eq (channel : Channel) (events : List Event) :
    channel.sendAll events =
      ⟨channel.waiting ++ channel.taken events, channel.stays.map (· - events.length)⟩ := by
  induction events generalizing channel with
  | nil => obtain ⟨waiting, _ | n⟩ := channel <;> simp [taken]
  | cons event events ih =>
    rw [sendAll_cons, ih]
    obtain ⟨waiting, _ | _ | n⟩ := channel
    all_goals simp [send, received, taken]

theorem sendAll_waiting (channel : Channel) (events : List Event) :
    (channel.sendAll events).waiting = channel.waiting ++ channel.taken events := by
  rw [sendAll_eq]

/-- A receiver that is there in the end has been there all the time. -/
theorem taken_of_received {channel : Channel} {events : List Event}
    (h : (channel.sendAll events).received = true) : channel.taken events = events := by
  rw [sendAll_eq] at h
  obtain ⟨waiting, _ | n⟩ := channel
  · rfl
  · have : n - events.length ≠ 0 := by simpa [received] using h
    exact List.take_of_length_le (by omega)

theorem received_of_sendAll {channel : Channel} {events : List Event}
    (h : (channel.sendAll events).received = true) : channel.received = true := by
  rw [sendAll_eq] at h
  obtain ⟨waiting, _ | n⟩ := channel
  · rfl
  · have : n - events.length ≠ 0 := by simpa [received] using h
    have : n ≠ 0 := by omega
    simpa [received]

end Channel

/-- The events that are emitted in these moments. -/
def emissions (moments : List (Moment V)) : List Event := moments.filterMap Moment.emission?

@[simp] theorem emissions_nil : emissions ([] : List (Moment V)) = [] := rfl

theorem emissions_append (before after : List (Moment V)) :
    emissions (before ++ after) = emissions before ++ emissions after :=
  List.filterMap_append

/-- What a channel is sent when these events are emitted: each as often as the channel is a sink. -/
def sentTo (sinks : List Sink) (index : Nat) (events : List Event) : List Event :=
  events.flatMap (List.replicate (sinks.count (.channel index)))

theorem sentTo_append (sinks : List Sink) (index : Nat) (before after : List Event) :
    sentTo sinks index (before ++ after) = sentTo sinks index before ++ sentTo sinks index after :=
  List.flatMap_append

/-- A channel that is a sink once is sent every event once. -/
theorem sentTo_of_once {sinks : List Sink} {index : Nat} (once : sinks.count (.channel index) = 1)
    (events : List Event) : sentTo sinks index events = events := by
  unfold sentTo
  rw [once]
  exact List.flatMap_singleton' events

/-! ### Deliveries -/

/-- A sink gets an event, or there is a record that a channel discards it. -/
def Moment.isDelivery : Moment V → Bool
  | .observed .. | .logged (.traced _) | .logged (.discarded _) => true
  | _ => false

/-- The moment, unless it is a delivery. -/
def Moment.undelivered? (m : Moment V) : Option (Moment V) :=
  if m.isDelivery then none else some m

theorem Moment.emission?_of_isDelivery {m : Moment V} (h : m.isDelivery = true) :
    m.emission? = none := by
  cases m <;> first | rfl | cases h

/-- A sink that gets an event changes nothing but the channels, and sends only to its own. -/
theorem Dispatcher.deliver_sink (event : Event) (sink : Sink) (state : State V) :
    ∃ channels moments,
      deliver event sink state = ⟨some (), { state with channels }, moments⟩ ∧
      (∀ m ∈ moments, m.isDelivery = true) ∧
      ∀ index : Nat, channels[index]? = state.channels[index]?.map fun channel =>
        channel.sendAll (List.replicate ([sink].count (.channel index)) event) := by
  cases sink with
  | channel number =>
    cases found : state.channels[number]? with
    | none =>
      -- Without such a channel, there is nothing at this index before and after.
      refine ⟨state.channels, [], ?_, fun _ h => (nomatch h), fun index => ?_⟩
      · dsimp only [deliver]
        rw [Run.state_bind_apply, found]
        rfl
      · by_cases same : number = index
        · rw [← same, found]
          rfl
        · simp [same]
    | some channel =>
      refine ⟨state.channels.set number (channel.send event).1,
        (channel.send event).2.map .logged, ?_, fun m hm => ?_, fun index => ?_⟩
      · dsimp only [deliver]
        rw [Run.state_bind_apply, found]
        rfl
      · obtain ⟨record, hrecord, rfl⟩ := List.mem_map.1 hm
        rw [channel.send_records event record hrecord]
        rfl
      · by_cases same : number = index
        · subst same
          obtain ⟨lt, -⟩ := List.getElem?_eq_some_iff.1 found
          rw [found, List.getElem?_set_self lt]
          simp [Channel.sendAll_cons]
        · rw [List.getElem?_set_ne same]
          simp [same]
  | tracing =>
    exact ⟨state.channels, [.logged (.traced event)], rfl, by simp [Moment.isDelivery], by simp⟩
  | observer number =>
    exact ⟨state.channels, [.observed number event], rfl, by simp [Moment.isDelivery], by simp⟩

/-- All sinks together change nothing but the channels either, and send the event to each channel as
often as it is a sink. -/
theorem Dispatcher.deliver_sinks (event : Event) (sinks : List Sink) (state : State V) :
    ∃ channels moments,
      sinks.forM (deliver event) state = ⟨some (), { state with channels }, moments⟩ ∧
      (∀ m ∈ moments, m.isDelivery = true) ∧
      ∀ index : Nat, channels[index]? = state.channels[index]?.map fun channel =>
        channel.sendAll (List.replicate (sinks.count (.channel index)) event) := by
  induction sinks generalizing state with
  | nil => exact ⟨state.channels, [], rfl, fun _ h => (nomatch h), by simp⟩
  | cons sink sinks ih =>
    obtain ⟨channels, before, hfirst, delivered, sent⟩ := deliver_sink event sink state
    obtain ⟨last, after, hrest, delivered', sent'⟩ := ih { state with channels }
    refine ⟨last, before ++ after, ?_, fun m hm => ?_, fun index => ?_⟩
    · change (deliver event sink >>= fun _ => sinks.forM (deliver event)) state = _
      rw [Run.bind_apply, hfirst, Outcome.andThen_some, hrest]
      rfl
    · rcases List.mem_append.1 hm with hm | hm
      · exact delivered m hm
      · exact delivered' m hm
    · have split : (sink :: sinks).count (.channel index) =
          [sink].count (.channel index) + sinks.count (.channel index) := by
        rw [← List.count_append]
        rfl
      rw [sent', sent, Option.map_map, split, ← List.replicate_append_replicate]
      simp only [Function.comp_def, Channel.sendAll_append]

/-! ### What channels hear -/

/-- The run sends a channel what it emits, each event as often as the channel is a sink. -/
def Run.Hears (sinks : List Sink) (index : Nat) (run : Run V α) : Prop :=
  ∀ state, (run state).state.channels[index]? = state.channels[index]?.map fun channel =>
    channel.sendAll (sentTo sinks index (emissions (run state).moments))

namespace Run.Hears

variable {sinks : List Sink} {index : Nat}

/-- Where nothing is emitted, the channels stay. -/
theorem still {run : Run V α} (channels : ∀ state, (run state).state.channels = state.channels)
    (unsaid : ∀ state, emissions (run state).moments = []) : run.Hears sinks index := by
  intro state
  rw [channels, unsaid]
  exact Option.map_id'.symm

theorem pure (a : α) : (Pure.pure a : Run V α).Hears sinks index :=
  still (fun _ => rfl) fun _ => rfl

theorem bind {run : Run V α} {f : α → Run V β} (h : run.Hears sinks index)
    (hf : ∀ a, (f a).Hears sinks index) : (run >>= f).Hears sinks index := by
  intro state
  have h := h state
  rw [bind_apply]
  generalize run state = out at h
  obtain ⟨_ | a, middle, before⟩ := out
  · exact h
  · have hf := hf a middle
    rw [Outcome.andThen_some, Outcome.after_state, Outcome.after_moments, hf, h, Option.map_map,
      emissions_append, sentTo_append]
    simp only [Function.comp_def, Channel.sendAll_append]

theorem state : (Run.state : Run V (State V)).Hears sinks index := still (fun _ => rfl) fun _ => rfl

theorem change {f : State V → State V} (h : ∀ state, (f state).channels = state.channels) :
    (Run.change f).Hears sinks index :=
  still h fun _ => rfl

theorem leave {moments : List (Moment V)} (unsaid : emissions moments = []) :
    (Run.leave moments).Hears sinks index :=
  still (fun _ => rfl) fun _ => unsaid

end Run.Hears

theorem Found.emissions_moments {ρ : Type} (found : Found ρ V) : emissions found.moments = [] := by
  refine List.filterMap_eq_nil_iff.2 fun m hm => ?_
  obtain ⟨finding, -, rfl⟩ := List.mem_map.1 hm
  cases finding <;> rfl

namespace Application

variable {sinks : List Sink} {index : Nat}

theorem ask_hears (app : Application V) (caller : Option Caller) (id : InstanceId)
    (session : Option String) : (app.ask caller id session).Hears sinks index := by
  refine .still (fun state => ?_) fun _ => rfl
  rw [ask_apply, verdict_state]

theorem act_hears (app : Application V) (act : Act V) : (app.act act).Hears sinks index := by
  cases act with
  | addHandler handler =>
    refine .bind .state fun _ => .bind (.change fun _ => rfl) fun _ => .leave ?_
    refine List.filterMap_eq_nil_iff.2 fun m hm => ?_
    obtain ⟨record, -, rfl⟩ := List.mem_map.1 hm
    rfl
  | findValidator kind =>
    refine .bind .state fun _ => .bind (.change fun _ => rfl) fun _ =>
      .bind (.leave ?_) fun _ => .pure _
    exact Found.emissions_moments _
  | check id session => exact app.ask_hears none id session
  | removeHandler | clearHandlers | countHandlers | findHandler | makeValidator | addValidator
  | removeValidator | addClass | removeClass | countCached | clearValidators | change | note =>
    exact .still (fun _ => rfl) fun _ => rfl

end Application

namespace Dispatcher

variable {dispatcher : Dispatcher V} {index : Nat}

theorem emit_hears (dispatcher : Dispatcher V) (event : Event) :
    (dispatcher.emit event).Hears dispatcher.sinks index := by
  intro state
  obtain ⟨channels, moments, delivers, delivered, sent⟩ :=
    deliver_sinks event dispatcher.sinks state
  have unsaid : emissions moments = [] :=
    List.filterMap_eq_nil_iff.2 fun m hm => m.emission?_of_isDelivery (delivered m hm)
  unfold emit
  rw [Run.leave_bind_apply, delivers]
  have said : emissions (.emitted event :: moments) = [event] := congrArg (event :: ·) unsaid
  simp only [Outcome.after_state, Outcome.after_moments, List.singleton_append, said, sent]
  simp [sentTo]

theorem resolve_hears (dispatcher : Dispatcher V) (caller : Caller) (kind : V.Kind) :
    (dispatcher.resolve caller kind).Hears dispatcher.sinks index := by
  refine .bind .state fun state => ?_
  cases dispatcher.handlerAt state kind with
  | none => exact .bind (.change fun _ => rfl) fun _ => .pure _
  | some handler =>
    refine .bind (.change fun _ => rfl) fun _ =>
      .bind (.leave (Found.emissions_moments _)) fun _ => ?_
    split
    · exact .pure _
    · exact .bind (.leave rfl) fun _ => .pure _

theorem vet_hears (dispatcher : Dispatcher V) (caller : Caller) (kind : V.Kind) :
    (dispatcher.vet caller kind).Hears dispatcher.sinks index := by
  refine .bind (dispatcher.resolve_hears caller kind) fun resolved => ?_
  rcases resolved with _ | ⟨handler, id⟩
  · exact .pure _
  · exact .bind (dispatcher.app.ask_hears _ id _) fun _ => .pure _

/-- A run is looked at for what it sends to a channel. -/
def hearing (sinks : List Sink) (index : Nat) : Comparison V where
  Alike run _ := run.Hears sinks index
  pure := .pure
  bind := .bind

theorem alike_hearing (dispatcher : Dispatcher V) (index : Nat) :
    Dispatcher.Alike (hearing dispatcher.sinks index) (fun _ => True) dispatcher dispatcher where
  program _ _ := rfl
  acts _ _ := Program.acts_of_all (fun _ => trivial) _
  act act _ := dispatcher.app.act_hears act
  leave m unsaid := .leave <| by
    cases m with
    | emitted event => exact absurd rfl (unsaid event)
    | _ => rfl
  openContext _ := .bind .state fun _ => .bind (.change fun _ => rfl) fun _ => .pure _
  emit event := dispatcher.emit_hears event
  vet caller kind := dispatcher.vet_hears caller kind
  undo := .inl rfl
  rollback := .inl rfl

/-- A channel whose receiver no client drops is sent whatever is emitted, in order. -/
theorem serve_hears (dispatcher : Dispatcher V) (depth : Nat) {moves : List (Move V)}
    (kept : .drop index ∉ moves) : (dispatcher.serve depth moves).Hears dispatcher.sinks index := by
  refine (dispatcher.alike_hearing index).serve (.still (fun _ => rfl) fun _ => rfl) depth
    (fun _ _ => trivial) fun other hother state => ?_
  have ne : other ≠ index := by
    rintro rfl
    exact kept hother
  simp [Run.change, ne, sentTo]

end Dispatcher

/-- The run sends a channel what it emits, if the channel has a receiver in the end. -/
def Run.Heeds (sinks : List Sink) (index : Nat) (run : Run V α) : Prop :=
  ∀ state last, (run state).state.channels[index]? = some last → last.received = true →
    ∃ channel, state.channels[index]? = some channel ∧
      last = channel.sendAll (sentTo sinks index (emissions (run state).moments))

namespace Run.Heeds

variable {sinks : List Sink} {index : Nat}

theorem of_hears {run : Run V α} (h : run.Hears sinks index) : run.Heeds sinks index := by
  intro state last found _
  rw [h state, Option.map_eq_some_iff] at found
  obtain ⟨channel, before, rfl⟩ := found
  exact ⟨channel, before, rfl⟩

theorem bind {run : Run V α} {f : α → Run V β} (h : run.Heeds sinks index)
    (hf : ∀ a, (f a).Heeds sinks index) : (run >>= f).Heeds sinks index := by
  intro state last found there
  have h := h state
  rw [bind_apply] at found ⊢
  generalize run state = out at h found
  obtain ⟨_ | a, middle, before⟩ := out
  · exact h last found there
  · obtain ⟨channel', hmiddle, rfl⟩ := hf a middle last found there
    obtain ⟨channel, hstate, rfl⟩ := h channel' hmiddle (Channel.received_of_sendAll there)
    refine ⟨channel, hstate, ?_⟩
    rw [Outcome.andThen_some, Outcome.after_moments, emissions_append, sentTo_append,
      Channel.sendAll_append]

end Run.Heeds

/-- Whatever clients do, a channel that has a receiver in the end was sent all that was emitted. -/
theorem Dispatcher.serve_heeds (dispatcher : Dispatcher V) {index : Nat} (depth : Nat)
    (moves : List (Move V)) : (dispatcher.serve depth moves).Heeds dispatcher.sinks index := by
  have alike := dispatcher.alike_hearing index
  induction moves with
  | nil => exact .of_hears (.pure [])
  | cons move moves ih =>
    cases move with
    | request session step =>
      exact .bind (.of_hears (alike.run (.still (fun _ => rfl) fun _ => rfl) depth session step))
        fun _ => .bind ih fun _ => .of_hears (.pure _)
    | act act =>
      exact .bind (.of_hears (alike.act act trivial)) fun _ => .bind ih fun _ => .of_hears (.pure _)
    | drop other =>
      refine .bind (fun state last found there => ?_) fun _ => ih
      by_cases same : other = index
      · -- The receiver is gone, so nothing is left to show.
        subst same
        simp only [Run.change, List.getElem?_modify_eq] at found
        obtain ⟨channel, -, rfl⟩ := Option.map_eq_some_iff.1 found
        cases there
      · simp only [Run.change, List.getElem?_modify, same, if_false] at found
        exact ⟨last, by simpa using found, rfl⟩

/-- What the channels hold after these moves, from what they held before. -/
structure Delivered (sinks : List Sink) (moves : List (Move V)) (channels : List Channel)
    (out : Outcome V α) : Prop where
  /-- A channel that is a sink once, and has a receiver in the end, got everything that was emitted, in
  order. -/
  alive : ∀ index last, sinks.count (.channel index) = 1 →
    out.state.channels[index]? = some last → last.received = true →
    ∃ channel, channels[index]? = some channel ∧
      last.waiting = channel.waiting ++ emissions out.moments
  /-- A channel got everything up to the moment when its receiver went away. -/
  held : ∀ index channel, .drop index ∉ moves → channels[index]? = some channel →
    ∃ last, out.state.channels[index]? = some last ∧
      last.waiting = channel.waiting ++ channel.taken (sentTo sinks index (emissions out.moments))

/-- Every channel gets what is emitted as long as it has a receiver. -/
theorem Dispatcher.serve_delivered (dispatcher : Dispatcher V) (depth : Nat) (moves : List (Move V))
    (state : State V) :
    Delivered dispatcher.sinks moves state.channels (dispatcher.serve depth moves state) := by
  constructor
  · intro index last once found there
    obtain ⟨channel, before, rfl⟩ := dispatcher.serve_heeds depth moves state last found there
    rw [sentTo_of_once once] at there ⊢
    exact ⟨channel, before, by rw [Channel.sendAll_waiting, Channel.taken_of_received there]⟩
  · intro index channel kept before
    have hears := dispatcher.serve_hears depth kept state
    rw [before] at hears
    exact ⟨_, hears, channel.sendAll_waiting _⟩

/-! ### What sinks leave alone -/

/-- The states differ in their channels at most. -/
def State.SameOffChannels (state other : State V) : Prop := ∃ channels, other = { state with channels }

namespace State.SameOffChannels

variable {state middle last : State V}

theorem symm (h : state.SameOffChannels last) : last.SameOffChannels state := by
  obtain ⟨channels, rfl⟩ := h
  exact ⟨state.channels, rfl⟩

theorem trans (h : state.SameOffChannels middle) (h' : middle.SameOffChannels last) :
    state.SameOffChannels last := by
  obtain ⟨channels, rfl⟩ := h
  obtain ⟨channels, rfl⟩ := h'
  exact ⟨channels, rfl⟩

end State.SameOffChannels

/-- The run does not depend on the channels, and leaves them as they are. -/
def Run.IgnoresChannels (run : Run V α) : Prop :=
  ∀ channels, run.Ignores fun state => { state with channels }

/-- The two outcomes are the same but for deliveries, and for the channels of their states. -/
abbrev Outcome.SameButHeard (out other : Outcome V α) : Prop :=
  out.Mirrors State.SameOffChannels Moment.undelivered? other

/-- From states that differ in their channels, the two runs are the same but for deliveries. -/
abbrev Run.SameButHeard (run other : Run V α) : Prop :=
  run.Mirrors State.SameOffChannels Moment.undelivered? other

theorem Run.IgnoresChannels.same {run : Run V α} (h : run.IgnoresChannels) :
    run.SameButHeard run := by
  rintro state _ ⟨channels, rfl⟩
  have later := h channels state
  dsimp only at later
  rw [later]
  exact ⟨rfl, ⟨channels, rfl⟩, rfl⟩

/-- Nothing in the registries depends on what the channels hold. -/
structure Dispatcher.Deaf (dispatcher : Dispatcher V) : Prop where
  handlers : ∀ state channels kind,
    dispatcher.handlerFor { state with channels } kind = dispatcher.handlerFor state kind
  validators : ∀ state channels kind,
    dispatcher.validatorFor { state with channels } kind = dispatcher.validatorFor state kind

namespace Application

theorem ask_ignores (app : Application V) (caller : Option Caller) (id : InstanceId)
    (session : Option String) : (app.ask caller id session).IgnoresChannels := by
  intro channels state
  rw [ask_apply, ask_apply]
  unfold verdict
  dsimp only
  cases state.store.get? id <;> rfl

theorem act_ignores (app : Application V) (act : Act V) : (app.act act).IgnoresChannels := by
  intro channels state
  cases act with
  | check id session => exact app.ask_ignores none id session channels state
  | _ => rfl

end Application

/-- Whether a client drops a receiver. -/
def Move.isDrop : Move V → Bool
  | .drop _ => true
  | _ => false

namespace Dispatcher

variable {dispatcher : Dispatcher V}

def withSinks (dispatcher : Dispatcher V) (sinks : List Sink) : Dispatcher V :=
  { dispatcher with sinks }

theorem Deaf.resolve_ignores (deaf : dispatcher.Deaf) (caller : Caller) (kind : V.Kind) :
    (dispatcher.resolve caller kind).IgnoresChannels := by
  intro channels state
  have handler : dispatcher.handlerAt { state with channels } kind =
      dispatcher.handlerAt state kind := by
    unfold handlerAt
    rw [deaf.handlers]
  have later : dispatcher.afterHandler { state with channels } kind =
      { dispatcher.afterHandler state kind with channels } := by
    unfold afterHandler
    rw [deaf.handlers]
  have validator : dispatcher.validatorAt { state with channels } kind =
      dispatcher.validatorAt state kind := by
    unfold validatorAt
    rw [later, deaf.validators]
  have last : dispatcher.afterValidator { state with channels } kind =
      { dispatcher.afterValidator state kind with channels } := by
    unfold afterValidator
    rw [validator]
  rw [resolve_apply, resolve_apply, handler, later, validator, last]
  cases dispatcher.handlerAt state kind with
  | none => rfl
  | some handler =>
    dsimp only
    cases (dispatcher.validatorAt state kind).found.instance? <;> rfl

theorem Deaf.vet_same (deaf : dispatcher.Deaf) (caller : Caller) (kind : V.Kind) :
    (dispatcher.vet caller kind).SameButHeard (dispatcher.vet caller kind) := by
  refine .bind (deaf.resolve_ignores caller kind).same fun resolved => ?_
  rcases resolved with _ | ⟨handler, id⟩
  · exact .pure _
  · exact .bind (dispatcher.app.ask_ignores _ id _).same fun _ => .pure _

/-- Emitting an event is the same for any sinks. -/
theorem emit_same (dispatcher other : Dispatcher V) (event : Event) :
    (dispatcher.emit event).SameButHeard (other.emit event) := by
  rintro state _ ⟨channels, rfl⟩
  obtain ⟨mine, moments, hmine, delivered, -⟩ := deliver_sinks event dispatcher.sinks state
  obtain ⟨yours, moments', hyours, delivered', -⟩ :=
    deliver_sinks event other.sinks { state with channels }
  have unseen {moments : List (Moment V)} (h : ∀ m ∈ moments, m.isDelivery = true) :
      (Moment.emitted event :: moments).filterMap Moment.undelivered? = [.emitted event] :=
    congrArg (Moment.emitted event :: ·) <| List.filterMap_eq_nil_iff.2 fun m hm => if_pos (h m hm)
  unfold emit
  rw [Run.leave_bind_apply, Run.leave_bind_apply, hmine, hyours]
  exact ⟨rfl, ⟨yours, rfl⟩, (unseen delivered').trans (unseen delivered).symm⟩

/-- Dispatchers that differ in their sinks only are alike but for deliveries and channels. -/
theorem Deaf.alike (deaf : dispatcher.Deaf) (sinks sinks' : List Sink) :
    Dispatcher.Alike (.mirror State.SameOffChannels Moment.undelivered?) (fun _ => True)
      (dispatcher.withSinks sinks) (dispatcher.withSinks sinks') where
  program _ _ := rfl
  acts _ _ := Program.acts_of_all (fun _ => trivial) _
  act act _ := (dispatcher.app.act_ignores act).same
  leave m _ := .leave [m]
  openContext _ := Run.IgnoresChannels.same fun _ _ => rfl
  emit event := emit_same _ _ event
  vet caller kind := deaf.vet_same caller kind
  undo := .inl rfl
  rollback := .inl rfl

/-- Nor does it matter to the rest whether clients drop receivers. -/
theorem Deaf.serve_same (deaf : dispatcher.Deaf) (sinks sinks' : List Sink) (depth : Nat)
    (moves : List (Move V)) :
    ((dispatcher.withSinks sinks).serve depth moves).SameButHeard
      ((dispatcher.withSinks sinks').serve depth (moves.filter fun move => !move.isDrop)) := by
  have alike := deaf.alike sinks sinks'
  induction moves with
  | nil => exact .pure []
  | cons move moves ih =>
    cases move with
    | request session step =>
      exact .bind (alike.run (fun h => Run.Mirrors.cut h) depth session step) fun _ =>
        .bind ih fun _ => .pure _
    | act act =>
      exact .bind (alike.act act trivial) fun _ => .bind ih fun _ => .pure _
    | drop index =>
      rintro state _ ⟨channels, rfl⟩
      exact ih ⟨channels, rfl⟩

/-- Neither the sinks, nor what channels held, nor clients that drop receivers make a difference to what
a dispatcher does, and every channel gets what is emitted as long as it has a receiver. -/
theorem Deaf.serve_undisturbed (deaf : dispatcher.Deaf) (depth : Nat) (state : State V)
    {moves moves' : List (Move V)}
    (same : moves'.filter (fun move => !move.isDrop) = moves.filter fun move => !move.isDrop)
    (sinks sinks' : List Sink) (channels channels' : List Channel) :
    let out := (dispatcher.withSinks sinks).serve depth moves { state with channels }
    let out' := (dispatcher.withSinks sinks').serve depth moves' { state with channels := channels' }
    out.SameButHeard out' ∧ Delivered sinks moves channels out := by
  intro out out'
  have quiet (channels : List Channel) :
      State.SameOffChannels { state with channels } { state with channels := [] } := ⟨[], rfl⟩
  -- Both are compared with the run without sinks in which nobody drops a receiver.
  have mine := deaf.serve_same sinks [] depth moves (quiet channels)
  have yours := deaf.serve_same sinks' [] depth moves' (quiet channels')
  rw [same] at yours
  exact ⟨⟨yours.value.symm.trans mine.value, mine.state.trans yours.state.symm,
    yours.moments.symm.trans mine.moments⟩,
    (dispatcher.withSinks sinks).serve_delivered depth moves { state with channels }⟩

open Widgets

/-- Somebody creates widgets, another one has a receiver dropped, and the first deletes some. -/
def visits : List (Move (vocabulary Nat)) :=
  [.request (some "user") (execution .create 3), .drop 2, .request (some "user") (execution .delete 1)]

/-- Of three channels, two of which are left before the end, the first one gets all six events of the
two requests, and the second one those that come before its receiver goes away. Without any sinks, and
nobody who goes away, all else is the same. -/
theorem counted_serve_undisturbed :
    counted.Deaf ∧
      (visits.eraseIdx 1).filter (fun move => !move.isDrop) = visits.filter (fun move => !move.isDrop) ∧
      let sinks := [.channel 0, .tracing, .channel 1, .channel 2]
      let channels : List Channel := [{}, { stays := some 2 }, {}]
      let out := (counted.withSinks sinks).serve 1 visits { crowded with channels }
      (out.SameButHeard
          ((counted.withSinks []).serve 1 (visits.eraseIdx 1) { crowded with channels := [] }) ∧
        Delivered sinks visits channels out) ∧
      ∃ first second third, out.state.channels = [first, second, third] ∧
        first.waiting.length = 6 ∧ second.waiting = first.waiting.take 2 ∧ third.received = false := by
  have deaf : counted.Deaf := ⟨fun _ _ _ => rfl, fun _ _ _ => rfl⟩
  exact ⟨deaf, rfl, deaf.serve_undisturbed 1 crowded rfl _ [] _ [], _, _, _, rfl, rfl, rfl, rfl⟩

end Dispatcher

end ActionDispatch
