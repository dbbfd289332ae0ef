import Mathlib.Data.List.Forall2
import Sastt.Domain.Events

/-!
# Writing to the log of a session

A session appends to its log one event after another, each with the time the
clock shows and a unique id. `EventWriter` is the log together with the
number of draws made from the supply of both, and `writeAll` appends a list
of events.

What a list of appended events says about the list of events returned is
`writeAll_spec`: each call returns, an event without a deduplication key is
appended as it was given, and the events returned are numbered onwards from
the end of the log exactly when no deduplication key repeats one that was
used before (`Fresh`).
-/

namespace Sastt

/-- Where the time and the unique ids come from: what each draw gives. -/
structure Supply where
  ulid : ℕ → String
  nowMs : ℕ → ℕ

/-- **A log being written to**, and how many draws have been made. -/
structure EventWriter (P : Type) where
  log : SessionEventLog P
  drawn : ℕ := 0

/-- The event carries what it was given. -/
structure Carries {P : Type} (f : EventFields P) (e : ServerEvent P) : Prop where
  eventType : e.eventType = f.eventType
  payload : e.payload = f.payload

namespace EventWriter

variable {P : Type}

/-- Append one event. -/
def write (supply : Supply) (f : EventFields P) :
    Method PyError (EventWriter P) (ServerEvent P) := fun w =>
  let result := SessionEventLog.append f (supply.nowMs w.drawn) (supply.ulid w.drawn) w.log
  (result.1, ⟨result.2, w.drawn + 1⟩)

/-- Append one event after another. -/
def writeAll (supply : Supply) (fs : List (EventFields P)) :
    Method PyError (EventWriter P) (List (ServerEvent P)) := .mapEach fs (write supply)

/-- **A log written to by the session only**: every id in it was drawn. -/
structure WellFormed (supply : Supply) (w : EventWriter P) : Prop where
  log : w.log.WellFormed
  drawn : ∀ key ∈ w.log.keys, ∃ i < w.drawn, key.1 = "evt_" ++ supply.ulid i

/-- What a session appends: events that draw their id, of a valid
revision. -/
structure Draws (f : EventFields P) : Prop where
  id : f.eventId = none
  revision : 1 ≤ f.revision

/-- No deduplication key repeats one that was used before. -/
structure Fresh (log : SessionEventLog P) (fs : List (EventFields P)) : Prop where
  nodup : (fs.filterMap EventFields.finalKey).Nodup
  unused : ∀ key ∈ fs.filterMap EventFields.finalKey, log.finalByDedupKey key = none

/-- The events are numbered onwards from `n`. -/
def Onwards (n : ℕ) (events : List (ServerEvent P)) : Prop :=
  (n :: events.map (fun e => e.sequenceNumber)).Pairwise (· < ·)

instance (n : ℕ) (events : List (ServerEvent P)) : Decidable (Onwards n events) :=
  inferInstanceAs (Decidable (List.Pairwise _ _))

variable {supply : Supply} {w : EventWriter P} {f : EventFields P} {fs : List (EventFields P)}

theorem onwards_cons {n : ℕ} {e : ServerEvent P} {events : List (ServerEvent P)} :
    Onwards n (e :: events) ↔ n < e.sequenceNumber ∧ Onwards e.sequenceNumber events := by
  unfold Onwards
  simp only [List.map_cons, List.pairwise_cons, List.mem_cons, forall_eq_or_imp]
  constructor
  · rintro ⟨⟨hn, -⟩, he, hevents⟩
    exact ⟨hn, he, hevents⟩
  · rintro ⟨hn, he, hevents⟩
    exact ⟨⟨hn, fun m hm => hn.trans (he m hm)⟩, he, hevents⟩

/-- Events numbered onwards come after where they start. -/
theorem Onwards.lt {n : ℕ} {events : List (ServerEvent P)} (h : Onwards n events) :
    ∀ e ∈ events, n < e.sequenceNumber := fun _ he =>
  (List.pairwise_cons.mp h).1 _ (List.mem_map_of_mem he)

/-! ## One event -/

/-- A drawn id was not used before. -/
theorem WellFormed.id_fresh (hw : w.WellFormed supply) (hu : Function.Injective supply.ulid)
    (hf : Draws f) (nowMs : ℕ) :
    ((w.log.nextEvent f nowMs (supply.ulid w.drawn)).eventId, f.revision) ∉ w.log.keys := by
  have hid : (w.log.nextEvent f nowMs (supply.ulid w.drawn)).eventId
      = "evt_" ++ supply.ulid w.drawn := by
    unfold SessionEventLog.nextEvent
    rw [hf.id]
    rfl
  intro hmem
  obtain ⟨i, hi, hkey⟩ := hw.drawn _ hmem
  rw [hid] at hkey
  exact hi.ne' (hu ((String.append_right_inj "evt_").mp hkey))

/-- Writing a final event a second time returns the first one. -/
theorem write_of_suppressed (supply : Supply) {e : ServerEvent P}
    (h : w.log.suppressedBy f = some e) :
    write supply f w = (.ok e, ⟨w.log, w.drawn + 1⟩) := by
  unfold write
  rw [SessionEventLog.append_of_suppressed h]

/-- Writing any other event appends it. -/
theorem write_of_not_suppressed (hw : w.WellFormed supply) (hu : Function.Injective supply.ulid)
    (hf : Draws f) (h : w.log.suppressedBy f = none) :
    ∃ e, write supply f w = (.ok e, ⟨w.log.push f e, w.drawn + 1⟩)
      ∧ e.sequenceNumber = w.log.sequence + 1 ∧ Carries f e := by
  have happend := SessionEventLog.append_of_fresh h hf.revision
    (hw.id_fresh hu hf (supply.nowMs w.drawn))
  refine ⟨w.log.nextEvent f (supply.nowMs w.drawn) (supply.ulid w.drawn), ?_, rfl, rfl, rfl⟩
  unfold write
  rw [happend]

/-- **Writing keeps the log well formed.** -/
theorem WellFormed.write (hw : w.WellFormed supply) (hf : Draws f) :
    (EventWriter.write supply f w).2.WellFormed supply where
  log := hw.log.append f _ _
  drawn := by
    show ∀ key ∈ (SessionEventLog.append f (supply.nowMs w.drawn) (supply.ulid w.drawn)
      w.log).2.keys, ∃ i < w.drawn + 1, key.1 = "evt_" ++ supply.ulid i
    have hold : ∀ key ∈ w.log.keys, ∃ i < w.drawn + 1, key.1 = "evt_" ++ supply.ulid i := by
      intro key hkey
      obtain ⟨i, hi, hid⟩ := hw.drawn key hkey
      exact ⟨i, Nat.lt_succ_of_lt hi, hid⟩
    rcases SessionEventLog.append_cases w.log f (supply.nowMs w.drawn) (supply.ulid w.drawn)
      with ⟨_, -, hs⟩ | ⟨-, ⟨_, hs⟩ | ⟨-, -, hs⟩⟩
    · rw [hs]
      exact hold
    · rw [hs]
      exact hold
    · rw [hs]
      intro key hkey
      rcases Finset.mem_insert.mp hkey with rfl | hkey
      · refine ⟨w.drawn, Nat.lt_succ_self _, ?_⟩
        unfold SessionEventLog.nextEvent
        rw [hf.id]
        rfl
      · exact hold key hkey

/-! ## A list of events -/

theorem Fresh.nil (log : SessionEventLog P) : Fresh log [] where
  nodup := List.nodup_nil
  unused _ h := absurd h List.not_mem_nil

/-- An event without a deduplication key asks nothing of the rest. -/
theorem fresh_cons_of_none (hf : f.finalKey = none) {log : SessionEventLog P}
    (e : ServerEvent P) : Fresh log (f :: fs) ↔ Fresh (log.push f e) fs := by
  have hpush : (log.push f e).finalByDedupKey = log.finalByDedupKey := by
    unfold SessionEventLog.push
    rw [hf]
  constructor
  · rintro ⟨hnodup, hunused⟩
    rw [List.filterMap_cons_none hf] at hnodup hunused
    exact ⟨hnodup, by rwa [hpush]⟩
  · rintro ⟨hnodup, hunused⟩
    rw [hpush] at hunused
    refine ⟨?_, ?_⟩ <;> rw [List.filterMap_cons_none hf]
    · exact hnodup
    · exact hunused

/-- An event with a deduplication key asks that the key was not used before
and is not used again. -/
theorem fresh_cons_of_some {key : String} (hf : f.finalKey = some key) {log : SessionEventLog P}
    (e : ServerEvent P) :
    Fresh log (f :: fs) ↔ log.finalByDedupKey key = none ∧ Fresh (log.push f e) fs := by
  have hpush : (log.push f e).finalByDedupKey
      = Function.update log.finalByDedupKey key (some e) := by
    unfold SessionEventLog.push
    rw [hf]
  constructor
  · rintro ⟨hnodup, hunused⟩
    rw [List.filterMap_cons_some hf] at hnodup hunused
    obtain ⟨hnew, hnodup⟩ := List.nodup_cons.mp hnodup
    refine ⟨hunused key List.mem_cons_self, hnodup, fun k hk => ?_⟩
    rw [hpush, Function.update_of_ne (fun h => hnew (by rwa [← h]))]
    exact hunused k (List.mem_cons_of_mem _ hk)
  · rintro ⟨hkey, hnodup, hunused⟩
    have hne : ∀ k ∈ fs.filterMap EventFields.finalKey, k ≠ key := by
      rintro k hk rfl
      have hk' := hunused k hk
      rw [hpush, Function.update_self] at hk'
      cases hk'
    refine ⟨?_, ?_⟩ <;> rw [List.filterMap_cons_some hf]
    · exact List.nodup_cons.mpr ⟨fun h => hne key h rfl, hnodup⟩
    · intro k hk
      rcases List.mem_cons.mp hk with rfl | hk
      · exact hkey
      · have hk' := hunused k hk
        rwa [hpush, Function.update_of_ne (hne k hk)] at hk'

/-- What the events returned for a list of events say about it. -/
structure Written (log : SessionEventLog P) (fs : List (EventFields P))
    (events : List (ServerEvent P)) : Prop where
  /-- An event without a deduplication key is appended as given. -/
  keyless : List.Forall₂ (fun f e => f.finalKey = none → Carries f e
    ∧ log.sequence < e.sequenceNumber) fs events
  onwards_iff : Onwards log.sequence events ↔ Fresh log fs
  carries : Fresh log fs → List.Forall₂ Carries fs events

/-- The events of the tail are written to the log the head left. -/
theorem Written.cons {log log' : SessionEventLog P} {e : ServerEvent P}
    {events : List (ServerEvent P)} (h : Written log' fs events)
    (hle : log.sequence ≤ log'.sequence)
    (hkeyless : f.finalKey = none → Carries f e ∧ log.sequence < e.sequenceNumber)
    (honwards : Onwards log.sequence (e :: events) ↔ Fresh log (f :: fs))
    (hcarries : Fresh log (f :: fs) → Carries f e ∧ Fresh log' fs) :
    Written log (f :: fs) (e :: events) where
  keyless := by
    refine List.Forall₂.cons hkeyless (h.keyless.imp (fun g e' hg hkey => ?_))
    exact ⟨(hg hkey).1, lt_of_le_of_lt hle (hg hkey).2⟩
  onwards_iff := honwards
  carries hfresh := List.Forall₂.cons (hcarries hfresh).1 (h.carries (hcarries hfresh).2)

/-- **What writing a list of events does**: every call returns, and the
events returned are numbered onwards exactly when no deduplication key
repeats an earlier one. -/
theorem writeAll_spec (hw : w.WellFormed supply) (hu : Function.Injective supply.ulid)
    (hfs : ∀ f ∈ fs, Draws f) :
    ∃ events w', writeAll supply fs w = (.ok events, w') ∧ w'.WellFormed supply
      ∧ w.drawn ≤ w'.drawn ∧ Written w.log fs events := by
  induction fs generalizing w with
  | nil =>
    refine ⟨[], w, rfl, hw, le_refl _, List.Forall₂.nil, ?_, fun _ => List.Forall₂.nil⟩
    exact ⟨fun _ => Fresh.nil w.log, fun _ => List.pairwise_singleton _ _⟩
  | cons f fs ih =>
    have hf := hfs f List.mem_cons_self
    have hw' := hw.write hf
    rcases hs : w.log.suppressedBy f with _ | old
    · obtain ⟨e, hok, hseq, hcarries⟩ := write_of_not_suppressed hw hu hf hs
      rw [hok] at hw'
      obtain ⟨events, w', hall, hwell, hdrawn, hwritten⟩ :=
        ih hw' (fun g hg => hfs g (List.mem_cons_of_mem f hg))
      refine ⟨e :: events, w', ?_, hwell, (Nat.le_succ _).trans hdrawn, ?_⟩
      · unfold writeAll Method.mapEach
        rw [Method.bind_of_ok hok]
        exact Method.bind_of_ok hall
      · have hnext : (w.log.push f e).sequence = e.sequenceNumber := rfl
        have hlt : w.log.sequence < e.sequenceNumber := by
          rw [hseq]
          exact Nat.lt_succ_self _
        have hfresh : Fresh w.log (f :: fs) ↔ Fresh (w.log.push f e) fs := by
          rcases hkey : f.finalKey with _ | key
          · exact fresh_cons_of_none hkey e
          · unfold SessionEventLog.suppressedBy at hs
            rw [hkey] at hs
            exact (fresh_cons_of_some hkey e).trans (and_iff_right hs)
        refine hwritten.cons (hnext ▸ hlt.le) (fun _ => ⟨hcarries, hlt⟩) ?_
          (fun h => ⟨hcarries, hfresh.mp h⟩)
        rw [onwards_cons, hfresh, ← hwritten.onwards_iff, hnext]
        exact and_iff_right hlt
    · have hok := write_of_suppressed supply hs
      rw [hok] at hw'
      obtain ⟨events, w', hall, hwell, hdrawn, hwritten⟩ :=
        ih hw' (fun g hg => hfs g (List.mem_cons_of_mem f hg))
      -- the key of the head was used, and its event is an old one
      obtain ⟨key, hkey, hold⟩ := Option.bind_eq_some_iff.mp hs
      have hnot : ¬ Fresh w.log (f :: fs) := by
        intro h
        rw [((fresh_cons_of_some hkey old).mp h).1] at hold
        cases hold
      refine ⟨old :: events, w', ?_, hwell, (Nat.le_succ _).trans hdrawn, ?_⟩
      · unfold writeAll Method.mapEach
        rw [Method.bind_of_ok hok]
        exact Method.bind_of_ok hall
      · refine hwritten.cons (le_refl _) (fun hnone => ?_) ?_ (fun h => absurd h hnot)
        · rw [hkey] at hnone
          cases hnone
        · refine iff_of_false (fun h => ?_) hnot
          exact Nat.not_lt.mpr (hw.log.finals key old hold).1 (onwards_cons.mp h).1

/-! ## Where a returned event comes from -/

/-- The event takes over what it was given, under the id of the `i`-th draw. -/
structure Takes (supply : Supply) (i : ℕ) (f : EventFields P) (e : ServerEvent P) : Prop
    extends Carries f e where
  supersedes : e.supersedesEventId = f.supersedesEventId
  id : e.eventId = "evt_" ++ supply.ulid i

/-- The next event of a log takes over what it is made from. -/
theorem takes_nextEvent (hf : Draws f) (log : SessionEventLog P) (nowMs i : ℕ) :
    Takes supply i f (log.nextEvent f nowMs (supply.ulid i)) where
  eventType := rfl
  payload := rfl
  supersedes := rfl
  id := by
    unfold SessionEventLog.nextEvent
    rw [hf.id]
    rfl

/-- Writing an event that is not suppressed appends it under the id just
drawn. -/
theorem write_takes (hw : w.WellFormed supply) (hu : Function.Injective supply.ulid)
    (hf : Draws f) (h : w.log.suppressedBy f = none) :
    ∃ e, e = w.log.nextEvent f (supply.nowMs w.drawn) (supply.ulid w.drawn)
      ∧ write supply f w = (.ok e, ⟨w.log.push f e, w.drawn + 1⟩) := by
  refine ⟨_, rfl, ?_⟩
  unfold write
  rw [SessionEventLog.append_of_fresh h hf.revision (hw.id_fresh hu hf (supply.nowMs w.drawn))]

/-- What is written without a deduplication key is the event given. -/
theorem write_keyless {e : ServerEvent P} {w' : EventWriter P} (hkey : f.finalKey = none)
    (hok : write supply f w = (.ok e, w')) :
    e = w.log.nextEvent f (supply.nowMs w.drawn) (supply.ulid w.drawn) := by
  have hevent : (SessionEventLog.append f (supply.nowMs w.drawn) (supply.ulid w.drawn) w.log).1
      = .ok e := congrArg Prod.fst hok
  rcases SessionEventLog.append_cases w.log f (supply.nowMs w.drawn) (supply.ulid w.drawn)
    with ⟨_, hs, -⟩ | ⟨-, ⟨_, hs⟩ | ⟨-, -, hs⟩⟩
  · unfold SessionEventLog.suppressedBy at hs
    rw [hkey] at hs
    cases hs
  · rw [hs] at hevent
    cases hevent
  · rw [hs] at hevent
    exact (Except.ok.inj hevent).symm

/-- An event is written, or an earlier one with its deduplication key is
returned. -/
theorem write_cases (hw : w.WellFormed supply) (hu : Function.Injective supply.ulid)
    (hf : Draws f) :
    (∃ key e, f.finalKey = some key ∧ w.log.finalByDedupKey key = some e
        ∧ write supply f w = (.ok e, ⟨w.log, w.drawn + 1⟩))
      ∨ ∃ e, write supply f w = (.ok e, ⟨w.log.push f e, w.drawn + 1⟩)
        ∧ e = w.log.nextEvent f (supply.nowMs w.drawn) (supply.ulid w.drawn)
        ∧ ∀ key, f.finalKey = some key → w.log.finalByDedupKey key = none := by
  cases hs : w.log.suppressedBy f with
  | some e =>
    obtain ⟨key, hkey, hold⟩ := Option.bind_eq_some_iff.mp hs
    exact Or.inl ⟨key, e, hkey, hold, write_of_suppressed supply hs⟩
  | none =>
    obtain ⟨e, hmade, hok⟩ := write_takes hw hu hf hs
    refine Or.inr ⟨e, hok, hmade, fun key hkey => ?_⟩
    unfold SessionEventLog.suppressedBy at hs
    rwa [hkey] at hs

/-- The final events of a log after one more. -/
theorem finalByDedupKey_push (log : SessionEventLog P) (f : EventFields P) (e : ServerEvent P)
    (key : String) : (log.push f e).finalByDedupKey key
      = if f.finalKey = some key then some e else log.finalByDedupKey key := by
  unfold SessionEventLog.push
  cases hkey : f.finalKey with
  | none => simp
  | some used =>
    by_cases hsame : key = used
    · simp [hsame]
    · simp [Function.update_of_ne hsame, Ne.symm hsame]

/-- A final event is remembered for good. -/
theorem finalByDedupKey_writeAll (hw : w.WellFormed supply) (hu : Function.Injective supply.ulid)
    (hfs : ∀ f ∈ fs, Draws f) {key : String} {e : ServerEvent P}
    (he : w.log.finalByDedupKey key = some e) :
    (writeAll supply fs w).2.log.finalByDedupKey key = some e := by
  induction fs generalizing w with
  | nil => exact he
  | cons f fs ih =>
    have hf := hfs f List.mem_cons_self
    have hw' := hw.write hf
    unfold writeAll Method.mapEach
    rcases write_cases hw hu hf with ⟨_, old, -, -, hok⟩ | ⟨new, hok, -, hunused⟩
    · rw [hok] at hw'
      rw [Method.bind_of_ok hok, Method.bind_pure_snd]
      exact ih hw' (fun g hg => hfs g (List.mem_cons_of_mem f hg)) he
    · rw [hok] at hw'
      rw [Method.bind_of_ok hok, Method.bind_pure_snd]
      refine ih hw' (fun g hg => hfs g (List.mem_cons_of_mem f hg)) ?_
      show (w.log.push f new).finalByDedupKey key = _
      rw [finalByDedupKey_push, if_neg, he]
      intro hkey
      rw [hunused key hkey] at he
      cases he

/-- **What holds of the events returned for a list**: what is true of the final
events there were, and of each new one under its deduplication key; events with
one key are one; and if no key repeats, what is true of each new event. -/
theorem writeAll_forall₂ {n : ℕ} {events : List (ServerEvent P)} {w' : EventWriter P}
    {Q : Option String → ServerEvent P → Prop} {T : EventFields P → ServerEvent P → Prop}
    (hw : w.WellFormed supply) (hu : Function.Injective supply.ulid)
    (hfs : ∀ f ∈ fs, Draws f) (hn : n ≤ w.drawn)
    (hnew : ∀ f ∈ fs, ∀ log nowMs, ∀ i ≥ n,
      Q f.finalKey (SessionEventLog.nextEvent log f nowMs (supply.ulid i))
        ∧ T f (SessionEventLog.nextEvent log f nowMs (supply.ulid i)))
    (hold : ∀ key e, w.log.finalByDedupKey key = some e → Q (some key) e)
    (hok : writeAll supply fs w = (.ok events, w')) :
    List.Forall₂ (fun f e => Q f.finalKey e) fs events
      ∧ List.Forall₂ (fun f e => ∀ key, f.finalKey = some key →
          w'.log.finalByDedupKey key = some e) fs events
      ∧ (Fresh w.log fs → List.Forall₂ T fs events) := by
  induction fs generalizing w events with
  | nil =>
    cases hok
    exact ⟨.nil, .nil, fun _ => .nil⟩
  | cons f fs ih =>
    have hf := hfs f List.mem_cons_self
    have hrest : ∀ g ∈ fs, Draws g := fun g hg => hfs g (List.mem_cons_of_mem f hg)
    have hnew' := fun g hg => hnew g (List.mem_cons_of_mem f hg)
    have hw' := hw.write hf
    obtain ⟨e, w₁, hone, hok⟩ := Method.bind_eq_ok.mp hok
    obtain ⟨es, w₂, hmany, hok⟩ := Method.bind_eq_ok.mp hok
    cases hok
    have hlast : w' = (writeAll supply fs w₁).2 := by
      show _ = (Method.mapEach fs (write supply) w₁).2
      rw [hmany]
    rw [hone] at hw'
    have hafter : ∀ key, w₁.log.finalByDedupKey key = some e →
        w'.log.finalByDedupKey key = some e := by
      intro key hkey
      rw [hlast]
      exact finalByDedupKey_writeAll hw' hu hrest hkey
    rcases write_cases hw hu hf with ⟨key, old, hkey, hgiven, hwrite⟩ |
      ⟨new, hwrite, hmade, hunused⟩
    · rw [hone] at hwrite
      cases hwrite
      obtain ⟨horigin, hsame, hfresh⟩ := ih hw' hrest (Nat.le_succ_of_le hn) hnew' hold hmany
      refine ⟨.cons ?_ horigin, .cons (fun k hk => ?_) hsame, fun h => ?_⟩
      · rw [hkey]
        exact hold key _ hgiven
      · rw [hkey] at hk
        cases hk
        exact hafter _ hgiven
      · rw [((fresh_cons_of_some hkey e).mp h).1] at hgiven
        cases hgiven
    · rw [hone] at hwrite
      cases hwrite
      obtain ⟨hkeyed, howned⟩ :=
        hnew f List.mem_cons_self w.log (supply.nowMs w.drawn) w.drawn hn
      rw [← hmade] at hkeyed howned
      have hpushed : ∀ key e', (w.log.push f e).finalByDedupKey key = some e' →
          Q (some key) e' := by
        intro key e' he'
        rw [finalByDedupKey_push] at he'
        split at he'
        · next hkey =>
          cases he'
          exact hkey ▸ hkeyed
        · exact hold key e' he'
      obtain ⟨horigin, hsame, hfresh⟩ := ih hw' hrest (Nat.le_succ_of_le hn) hnew' hpushed hmany
      refine ⟨.cons hkeyed horigin, .cons (fun k hk => hafter k ?_) hsame, fun h => ?_⟩
      · show (w.log.push f e).finalByDedupKey k = _
        rw [finalByDedupKey_push, if_pos hk]
      · refine .cons howned (hfresh ?_)
        cases hkey : f.finalKey with
        | none => exact (fresh_cons_of_none hkey e).mp h
        | some key => exact ((fresh_cons_of_some hkey e).mp h).2

/-- **Where the events returned for a list come from**: each takes over an
event of the list with its deduplication key, events with one key are one, and
if no key repeats each takes over its own. -/
theorem writeAll_takes {all : List (EventFields P)} {n : ℕ} {events : List (ServerEvent P)}
    {w' : EventWriter P} (hw : w.WellFormed supply) (hu : Function.Injective supply.ulid)
    (hfs : ∀ f ∈ fs, Draws f) (hall : ∀ f ∈ fs, f ∈ all) (hn : n ≤ w.drawn)
    (hold : ∀ key e, w.log.finalByDedupKey key = some e →
      ∃ f ∈ all, f.finalKey = some key ∧ ∃ i ≥ n, Takes supply i f e)
    (hok : writeAll supply fs w = (.ok events, w')) :
    List.Forall₂ (fun f e => ∃ g ∈ all, g.finalKey = f.finalKey ∧ ∃ i ≥ n, Takes supply i g e)
        fs events
      ∧ List.Forall₂ (fun f e => ∀ key, f.finalKey = some key →
          w'.log.finalByDedupKey key = some e) fs events
      ∧ (Fresh w.log fs → List.Forall₂ (fun f e => ∃ i ≥ n, Takes supply i f e) fs events) := by
  refine writeAll_forall₂ (Q := fun key e => ∃ g ∈ all, g.finalKey = key
    ∧ ∃ i ≥ n, Takes supply i g e) hw hu hfs hn (fun f hf log nowMs i hi => ?_) hold hok
  have htakes : Takes supply i f (log.nextEvent f nowMs (supply.ulid i)) :=
    takes_nextEvent (hfs f hf) log nowMs i
  exact ⟨⟨f, hall f hf, rfl, i, hi, htakes⟩, i, hi, htakes⟩

end EventWriter

end Sastt
