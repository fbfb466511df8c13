import ActionDispatch.Proofs.Chronicle

/-!
# Episodes

Every request of a run has an episode in it: a run of its own, before and after which nothing is of
that request (`Chronicle.episodes`). Each moment of a chronicle is a piece of its own or of a request
that begins in it (`Chronicle.origin`), and what is to be seen of a request that was there before are
pieces of its own (`Chronicle.project`).
-/

namespace ActionDispatch

variable {V : Vocabulary}

/-- The request begins in these moments of a run from the first of these numbers of requests, to the
second one unless it is cut short. -/
structure BeginsIn (n : Nat) (stop : Option Nat) (moments : List (Moment V)) (request : RequestId) :
    Prop where
  le : n ≤ request.number
  lt : ∀ last, stop = some last → request.number < last
  opened : ∃ caller step, .opened caller step ∈ moments ∧ caller.request = request

namespace Dispatcher

variable {dispatcher : Dispatcher V} {Own : List (Moment V) → Prop} {n : Nat}
  {moments : List (Moment V)} {stop : Option Nat}

theorem Tells.of_event {event : Event} {told : List (Moment V)} (h : dispatcher.Tells event told) :
    ∀ m ∈ told, ∀ id, m.request? = some id → id = event.request := by
  obtain ⟨delivered, -⟩ := h
  intro m hm id hid
  rcases List.mem_cons.1 hm with rfl | hm
  · exact (Option.some.inj hid).symm
  · rcases (delivered m hm).silent_or with silent | ⟨index, rfl⟩
    · cases silent.1.symm.trans hid
    · exact (Option.some.inj hid).symm

theorem Tells.unmarked {event : Event} {told : List (Moment V)} (h : dispatcher.Tells event told) :
    ∀ m ∈ told, m.isMark = false := by
  obtain ⟨delivered, -⟩ := h
  intro m hm
  rcases List.mem_cons.1 hm with rfl | hm
  · rfl
  · rcases (delivered m hm).silent_or with silent | ⟨index, rfl⟩
    · exact m.isMark_of_unnamed silent.1
    · rfl

theorem Affair.of_request {request : RequestId} {piece : List (Moment V)}
    (h : dispatcher.Affair request piece) :
    ∀ m ∈ piece, ∀ id, m.request? = some id → id = request := by
  cases h with
  | moment unmarked mine =>
    intro m hm
    obtain rfl := List.mem_singleton.1 hm
    exact mine
  | told mine tells =>
    intro m hm id hid
    rw [tells.of_event m hm id hid, mine]

theorem Affair.unmarked {request : RequestId} {piece : List (Moment V)}
    (h : dispatcher.Affair request piece) : ∀ m ∈ piece, m.isMark = false := by
  cases h with
  | moment unmarked =>
    intro m hm
    obtain rfl := List.mem_singleton.1 hm
    exact unmarked
  | told mine tells => exact tells.unmarked

/-- Requests are only added, and each moment is a piece of the chronicle's own, or of a request that
begins in it. -/
theorem Chronicle.origin (h : dispatcher.Chronicle Own n moments stop) :
    (∀ last, stop = some last → n ≤ last) ∧
      ∀ m ∈ moments, (∃ piece, Own piece ∧ m ∈ piece) ∨
        ∀ id, m.request? = some id → BeginsIn n stop moments id := by
  induction h with
  | cut => exact ⟨fun _ h => (nomatch h), fun _ h => (nomatch h)⟩
  | nil => exact ⟨fun _ h => by cases h; exact Nat.le_refl _, fun _ h => (nomatch h)⟩
  | own own =>
    exact ⟨fun _ h => by cases h; exact Nat.le_refl _, fun m hm => .inl ⟨_, own, hm⟩⟩
  | append first second ih₁ ih₂ =>
    obtain ⟨le₁, origin₁⟩ := ih₁
    obtain ⟨le₂, origin₂⟩ := ih₂
    have le₁ := le₁ _ rfl
    refine ⟨fun last hlast => Nat.le_trans le₁ (le₂ last hlast), fun m hm => ?_⟩
    rcases List.mem_append.1 hm with hm | hm
    · refine (origin₁ m hm).imp_right fun named id hid => ?_
      obtain ⟨le, lt, caller, step, opened, same⟩ := named id hid
      exact ⟨le, fun last hlast => Nat.lt_of_lt_of_le (lt _ rfl) (le₂ last hlast), caller, step,
        List.mem_append_left _ opened, same⟩
    · refine (origin₂ m hm).imp_right fun named id hid => ?_
      obtain ⟨le, lt, caller, step, opened, same⟩ := named id hid
      exact ⟨Nat.le_trans le₁ le, lt, caller, step, List.mem_append_right _ opened, same⟩
  | @begun Own depth session step state last body run inside ih =>
    refine ⟨fun _ h => (nomatch h), fun m hm => .inr fun id hid => ?_⟩
    have here : BeginsIn state.requests none
        (.opened (.fresh state session) step :: body : List (Moment V)) ⟨state.requests⟩ :=
      ⟨Nat.le_refl _, fun _ h => (nomatch h), _, step, List.mem_cons_self, rfl⟩
    rcases List.mem_cons.1 hm with rfl | hm
    · obtain rfl := Option.some.inj hid
      exact here
    · rcases ih.2 m hm with ⟨piece, affair, hm⟩ | named
      · rwa [affair.of_request m hm id hid]
      · obtain ⟨le, lt, caller, step, opened, same⟩ := named id hid
        exact ⟨Nat.le_of_succ_le le, lt, caller, step, List.mem_cons_of_mem _ opened, same⟩
  | @request Own depth session step answer state last body run inside ih =>
    have le : state.requests + 1 ≤ last.requests := ih.1 _ rfl
    have here : BeginsIn state.requests (some last.requests)
        (.opened (.fresh state session) step ::
          (body ++ [.closed (.fresh state session) step answer]) : List (Moment V))
        ⟨state.requests⟩ :=
      ⟨Nat.le_refl _, fun _ h => by cases h; exact le, _, step, List.mem_cons_self, rfl⟩
    refine ⟨fun _ h => by cases h; exact Nat.le_of_succ_le le, fun m hm => .inr fun id hid => ?_⟩
    rcases List.mem_cons.1 hm with rfl | hm
    · obtain rfl := Option.some.inj hid
      exact here
    · rcases List.mem_append.1 hm with hm | hm
      · rcases ih.2 m hm with ⟨piece, affair, hm⟩ | named
        · rwa [affair.of_request m hm id hid]
        · obtain ⟨le, lt, caller, step, opened, same⟩ := named id hid
          exact ⟨Nat.le_of_succ_le le, lt, caller, step,
            List.mem_cons_of_mem _ (List.mem_append_left _ opened), same⟩
      · obtain rfl := List.mem_singleton.1 hm
        obtain rfl := Option.some.inj hid
        exact here

/-- What is to be seen of a request that was there before are pieces of the chronicle's own: a
property that holds of these and that does not mind other requests holds of the whole. -/
theorem Chronicle.project (h : dispatcher.Chronicle Own n moments stop) {request : RequestId}
    (old : request.number < n) {P : List (Moment V) → Prop}
    (absent : ∀ {moments}, (∀ m ∈ moments, m.request? ≠ some request) → P moments)
    (append : ∀ {before after}, P before → P after → P (before ++ after))
    (own : ∀ {piece}, Own piece → P piece) : P moments := by
  -- A request that begins here leaves nothing of one that was there before.
  have unrelated : ∀ {n moments stop},
      dispatcher.Chronicle (fun _ => False) n moments stop → request.number < n →
      ∀ m ∈ moments, m.request? ≠ some request := by
    intro n moments stop h old m hm hrequest
    rcases h.origin.2 m hm with ⟨_, ⟨⟩, _⟩ | named
    exact Nat.not_lt_of_le (named request hrequest).le old
  induction h with
  | cut | nil => exact absent fun _ hm => (nomatch hm)
  | own piece => exact own piece
  | append first second ih₁ ih₂ =>
    exact append (ih₁ old own) (ih₂ (Nat.lt_of_lt_of_le old (first.origin.1 _ rfl)) own)
  | begun run inside => exact absent (unrelated (.begun run inside) old)
  | request run inside => exact absent (unrelated (.request run inside) old)

/-! ### What observers hear -/

/-- What an observer hears is what is emitted, each event as often as the observer is a sink. -/
def Heard (dispatcher : Dispatcher V) (moments : List (Moment V)) : Prop :=
  ∀ index, moments.filterMap (Moment.heard? index) =
    (moments.filterMap Moment.emission?).flatMap fun event =>
      List.replicate (dispatcher.sinks.count (.observer index)) event

namespace Heard

theorem nil : dispatcher.Heard [] := fun _ => rfl

theorem append {before after : List (Moment V)} (h : dispatcher.Heard before)
    (h' : dispatcher.Heard after) : dispatcher.Heard (before ++ after) := by
  intro index
  rw [List.filterMap_append, List.filterMap_append, List.flatMap_append, h index, h' index]

theorem singleton {m : Moment V} (unheard : ∀ index, m.heard? index = none)
    (unsaid : m.emission? = none) : dispatcher.Heard [m] := by
  intro index
  simp [unheard index, unsaid]

end Heard

theorem Tells.emissions {event : Event} {told : List (Moment V)} (h : dispatcher.Tells event told) :
    told.filterMap Moment.emission? = [event] := by
  obtain ⟨delivered, -⟩ := h
  refine congrArg (event :: ·) (List.filterMap_eq_nil_iff.2 fun m hm => ?_)
  rcases (delivered m hm).silent_or with silent | ⟨index, rfl⟩
  · cases m <;> first | rfl | cases silent.1
  · rfl

theorem Tells.heard {event : Event} {told : List (Moment V)} (h : dispatcher.Tells event told) :
    dispatcher.Heard told := by
  intro index
  rw [h.emissions]
  obtain ⟨-, heard⟩ := h
  rw [List.filterMap_cons_none rfl, heard]
  simp

theorem Affair.heard {request : RequestId} {piece : List (Moment V)}
    (h : dispatcher.Affair request piece) : dispatcher.Heard piece := by
  cases h with
  | moment unmarked mine unheard unsaid => exact .singleton unheard unsaid
  | told mine tells => exact tells.heard

theorem Chronicle.heard (h : dispatcher.Chronicle Own n moments stop)
    (own : ∀ piece, Own piece → dispatcher.Heard piece) : dispatcher.Heard moments := by
  induction h with
  | cut | nil => exact .nil
  | own piece => exact own _ piece
  | append _ _ ih₁ ih₂ => exact (ih₁ own).append (ih₂ own)
  | @begun _ _ session step state _ _ _ _ ih =>
    have opened : dispatcher.Heard [.opened (.fresh state session) step] :=
      .singleton (fun _ => rfl) rfl
    exact opened.append (ih fun _ affair => affair.heard)
  | @request _ _ session step answer state _ _ _ _ ih =>
    have opened : dispatcher.Heard [.opened (.fresh state session) step] :=
      .singleton (fun _ => rfl) rfl
    exact opened.append ((ih fun _ affair => affair.heard).append (.singleton (fun _ => rfl) rfl))

/-! ### Places of requests -/

/-- A request has its place in these moments: they are a run of its own, which has this answer unless
it is cut short, and before and after it there is nothing of the request. -/
inductive Episode (dispatcher : Dispatcher V) (caller : Caller) (step : Step V) :
    Option (Answer step.Result) → List (Moment V) → Prop
  | intro (depth : Nat) (session : Option String) (state : State V) (before after : List (Moment V))
      (fresh : caller = .fresh state session)
      (before_not : ∀ m ∈ before, m.request? ≠ some caller.request)
      (after_not : ∀ m ∈ after, m.request? ≠ some caller.request) :
      Episode dispatcher caller step (dispatcher.run depth session step state).value
        (before ++ (dispatcher.run depth session step state).moments ++ after)

theorem Episode.append_left {caller : Caller} {step : Step V}
    {answer? : Option (Answer step.Result)} (h : dispatcher.Episode caller step answer? moments)
    {more : List (Moment V)} (more_not : ∀ m ∈ more, m.request? ≠ some caller.request) :
    dispatcher.Episode caller step answer? (more ++ moments) := by
  obtain ⟨depth, session, state, before, after, fresh, before_not, after_not⟩ := h
  have longer : dispatcher.Episode caller step (dispatcher.run depth session step state).value
      ((more ++ before) ++ (dispatcher.run depth session step state).moments ++ after) :=
    .intro depth session state _ _ fresh
      (fun m hm => (List.mem_append.1 hm).elim (more_not m) (before_not m)) after_not
  simpa only [List.append_assoc] using longer

theorem Episode.append_right {caller : Caller} {step : Step V}
    {answer? : Option (Answer step.Result)} (h : dispatcher.Episode caller step answer? moments)
    {more : List (Moment V)} (more_not : ∀ m ∈ more, m.request? ≠ some caller.request) :
    dispatcher.Episode caller step answer? (moments ++ more) := by
  obtain ⟨depth, session, state, before, after, fresh, before_not, after_not⟩ := h
  have longer : dispatcher.Episode caller step (dispatcher.run depth session step state).value
      (before ++ (dispatcher.run depth session step state).moments ++ (after ++ more)) :=
    .intro depth session state _ _ fresh before_not
      fun m hm => (List.mem_append.1 hm).elim (after_not m) (more_not m)
  simpa only [List.append_assoc] using longer

/-- Every request that begins in these moments has its episode there, and every one that ends, with
its answer. -/
structure HasEpisodes (dispatcher : Dispatcher V) (moments : List (Moment V)) (finished : Bool) :
    Prop where
  opened : ∀ {caller step}, .opened caller step ∈ moments →
    ∃ answer?, dispatcher.Episode caller step answer? moments ∧
      (finished = true → answer?.isSome = true)
  closed : ∀ {caller step answer}, .closed caller step answer ∈ moments →
    dispatcher.Episode caller step (some answer) moments

/-- Pieces in which no request begins or ends, and that are of requests that were there before. -/
structure Tame (Own : List (Moment V) → Prop) (n : Nat) : Prop where
  unmarked : ∀ {piece}, Own piece → ∀ m ∈ piece, m.isMark = false
  old : ∀ {piece}, Own piece → ∀ m ∈ piece, ∀ id, m.request? = some id → id.number < n

theorem Tame.mono {n' : Nat} (h : Tame Own n) (le : n ≤ n') : Tame Own n' :=
  ⟨h.unmarked, fun own m hm id hid => Nat.lt_of_lt_of_le (h.old own m hm id hid) le⟩

theorem Affair.tame (n : Nat) : Tame (dispatcher.Affair ⟨n⟩) (n + 1) := by
  refine ⟨fun affair => affair.unmarked, fun affair m hm id hid => ?_⟩
  rw [affair.of_request m hm id hid]
  exact Nat.lt_succ_self n

/-- Where a request begins or ends, its number is new. -/
theorem Chronicle.mark_new (h : dispatcher.Chronicle Own n moments stop) (tame : Tame Own n)
    {m : Moment V} (hm : m ∈ moments) (mark : m.isMark = true) {request : RequestId}
    (hrequest : m.request? = some request) : BeginsIn n stop moments request := by
  rcases h.origin.2 m hm with ⟨piece, own, hm⟩ | named
  · cases mark.symm.trans (tame.unmarked own m hm)
  · exact named request hrequest

/-- A request that begins or ends while another one is open is not that one. -/
theorem Chronicle.apart {number : Nat}
    (h : dispatcher.Chronicle (dispatcher.Affair ⟨number⟩) (number + 1) moments stop)
    {m edge : Moment V} (hm : m ∈ moments) (mark : m.isMark = true) {request : RequestId}
    (hrequest : m.request? = some request) (outer : edge.request? = some ⟨number⟩) :
    ∀ m ∈ [edge], m.request? ≠ some request := by
  intro m' hm' same
  obtain rfl := List.mem_singleton.1 hm'
  obtain rfl := Option.some.inj (outer.symm.trans same)
  exact Nat.not_succ_le_self _ (h.mark_new (Affair.tame _) hm mark hrequest).le

/-- In a later chronicle with these pieces there is nothing of a request that began before it, nor
in an earlier one of a request that begins after it. -/
theorem Chronicle.not_of {n' : Nat} (h : dispatcher.Chronicle Own n' moments stop)
    (tame : Tame Own n) {request : RequestId} (new : n ≤ request.number)
    (apart : request.number < n' ∨ ∃ last, stop = some last ∧ last ≤ request.number) :
    ∀ m ∈ moments, m.request? ≠ some request := by
  intro m hm hrequest
  rcases h.origin.2 m hm with ⟨piece, own, hm⟩ | named
  · exact Nat.not_lt_of_le new (tame.old own m hm request hrequest)
  · obtain ⟨le, lt, -⟩ := named request hrequest
    rcases apart with earlier | ⟨last, hlast, later⟩
    · exact Nat.not_lt_of_le le earlier
    · exact Nat.not_lt_of_le later (lt last hlast)

/-- A request that is a whole chronicle is its own episode. -/
theorem Episode.whole {depth : Nat} {session : Option String} {step : Step V} {state last : State V}
    {answer? : Option (Answer step.Result)}
    (run : dispatcher.run depth session step state = ⟨answer?, last, moments⟩) :
    dispatcher.Episode (.fresh state session) step answer? moments := by
  have whole : dispatcher.Episode (.fresh state session) step
      (dispatcher.run depth session step state).value
      ([] ++ (dispatcher.run depth session step state).moments ++ []) :=
    .intro depth session state [] [] rfl (fun _ h => (nomatch h)) (fun _ h => (nomatch h))
  simpa [run] using whole

theorem Chronicle.episodes (h : dispatcher.Chronicle Own n moments stop) (tame : Tame Own n) :
    dispatcher.HasEpisodes moments stop.isSome := by
  induction h with
  | cut | nil => exact ⟨fun hm => (nomatch hm), fun hm => (nomatch hm)⟩
  | own own =>
    refine ⟨fun hm => ?_, fun hm => ?_⟩
    · cases tame.unmarked own _ hm
    · cases tame.unmarked own _ hm
  | @append Own n middle before after stop first second ih₁ ih₂ =>
    have le : n ≤ middle := first.origin.1 _ rfl
    have early : ∀ {m : Moment V} {request}, m ∈ before → m.isMark = true →
        m.request? = some request → ∀ m ∈ after, m.request? ≠ some request := by
      intro m request hm mark hrequest
      obtain ⟨new, old, -⟩ := first.mark_new tame hm mark hrequest
      exact second.not_of tame new (.inl (old _ rfl))
    have late : ∀ {m : Moment V} {request}, m ∈ after → m.isMark = true →
        m.request? = some request → ∀ m ∈ before, m.request? ≠ some request := by
      intro m request hm mark hrequest
      obtain ⟨new, -, -⟩ := second.mark_new (tame.mono le) hm mark hrequest
      exact first.not_of tame (Nat.le_trans le new) (.inr ⟨middle, rfl, new⟩)
    have ih₁ := ih₁ tame
    have ih₂ := ih₂ (tame.mono le)
    refine ⟨fun hm => ?_, fun hm => ?_⟩
    · rcases List.mem_append.1 hm with hm | hm
      · obtain ⟨answer?, episode, finished⟩ := ih₁.opened hm
        exact ⟨answer?, episode.append_right (early hm rfl rfl), fun _ => finished rfl⟩
      · obtain ⟨answer?, episode, finished⟩ := ih₂.opened hm
        exact ⟨answer?, episode.append_left (late hm rfl rfl), finished⟩
    · rcases List.mem_append.1 hm with hm | hm
      · exact (ih₁.closed hm).append_right (early hm rfl rfl)
      · exact (ih₂.closed hm).append_left (late hm rfl rfl)
  | @begun Own depth session step state last body run inside ih =>
    have ih := ih (Affair.tame _)
    refine ⟨fun hm => ?_, fun hm => ?_⟩
    · rcases List.mem_cons.1 hm with same | hm
      · cases same
        exact ⟨none, .whole run, fun h => (nomatch h)⟩
      · obtain ⟨answer?, episode, -⟩ := ih.opened hm
        exact ⟨answer?, episode.append_left (inside.apart hm rfl rfl rfl), fun h => (nomatch h)⟩
    · rcases List.mem_cons.1 hm with ⟨⟨⟩⟩ | hm
      exact (ih.closed hm).append_left (inside.apart hm rfl rfl rfl)
  | @request Own depth session step answer state last body run inside ih =>
    have ih := ih (Affair.tame _)
    refine ⟨fun hm => ?_, fun hm => ?_⟩
    · rcases List.mem_cons.1 hm with same | hm
      · cases same
        exact ⟨some answer, .whole run, fun _ => rfl⟩
      · rcases List.mem_append.1 hm with hm | hm
        · obtain ⟨answer?, episode, finished⟩ := ih.opened hm
          exact ⟨answer?, (episode.append_right (inside.apart hm rfl rfl rfl)).append_left
            (inside.apart hm rfl rfl rfl), finished⟩
        · cases List.mem_singleton.1 hm
    · rcases List.mem_cons.1 hm with ⟨⟨⟩⟩ | hm
      rcases List.mem_append.1 hm with hm | hm
      · exact ((ih.closed hm).append_right (inside.apart hm rfl rfl rfl)).append_left
          (inside.apart hm rfl rfl rfl)
      · cases List.mem_singleton.1 hm
        exact .whole run

/-! ### Clients -/

/-- A client leaves nothing of its own but what is silent. -/
theorem Work.silent_of_client {piece : List (Moment V)} (h : dispatcher.Work none piece) :
    ∃ m, piece = [m] ∧ m.Silent := by
  cases h with
  | silent silent => exact ⟨_, rfl, silent⟩

theorem Work.tame_of_client (n : Nat) : Tame (dispatcher.Work none) n := by
  refine ⟨fun work m hm => ?_, fun work m hm id hid => ?_⟩
  · obtain ⟨_, rfl, silent⟩ := work.silent_of_client
    exact m.isMark_of_unnamed (List.mem_singleton.1 hm ▸ silent.1)
  · obtain ⟨_, rfl, silent⟩ := work.silent_of_client
    cases (List.mem_singleton.1 hm ▸ silent.1 : m.request? = none).symm.trans hid

/-- Whatever is of a request in what clients do, is of one that begins there. -/
theorem serve_opened (dispatcher : Dispatcher V) (depth : Nat) (moves : List (Move V))
    (state : State V) {m : Moment V} (hm : m ∈ (dispatcher.serve depth moves state).moments)
    {request : RequestId} (hrequest : m.request? = some request) :
    ∃ caller step, .opened caller step ∈ (dispatcher.serve depth moves state).moments ∧
      caller.request = request := by
  rcases (serve_chronicles dispatcher depth moves state).origin.2 m hm with ⟨piece, work, hm⟩ | named
  · obtain ⟨_, rfl, silent⟩ := work.silent_of_client
    cases (List.mem_singleton.1 hm ▸ silent.1 : m.request? = none).symm.trans hrequest
  · exact (named request hrequest).opened

theorem serve_episodes (dispatcher : Dispatcher V) (depth : Nat) (moves : List (Move V))
    (state : State V) :
    dispatcher.HasEpisodes (dispatcher.serve depth moves state).moments
      (dispatcher.serve depth moves state).value.isSome := by
  have episodes := (serve_chronicles dispatcher depth moves state).episodes (Work.tame_of_client _)
  rwa [Option.isSome_map] at episodes

theorem serve_heard (dispatcher : Dispatcher V) (depth : Nat) (moves : List (Move V))
    (state : State V) : dispatcher.Heard (dispatcher.serve depth moves state).moments := by
  refine (serve_chronicles dispatcher depth moves state).heard fun piece work => ?_
  obtain ⟨m, rfl, silent⟩ := work.silent_of_client
  refine .singleton (fun index => ?_) ?_
  · cases m <;> first | rfl | cases silent.1
  · cases m <;> first | rfl | cases silent.1

end Dispatcher

end ActionDispatch
