import RecordWatch.Proofs.Session.Completeness

/-! Cycles over a collection that is tracked: what is stored of it is fresh since the beginning of
its last successful poll. A cycle polls it at most once, from where the next query looks back to,
and leaves it tracked; so does the cycle that seeds it. -/

namespace RecordWatch

section

variable {ε : Type} (env : Environment ε) (root : String) (settings : Settings)
  (remote : Remote ε) (c : String)

/-- What is stored of the collection is fresh since the beginning of its last successful poll, and
one can look back from there. -/
def Tracked (succeeded : Fields Instant) (w : World ε Files) : Prop :=
  ∃ last, succeeded.get? c = some last ∧ (last.sub? settings.padding).isSome ∧
    Ready env root settings remote c last.nanoseconds w

variable {env root settings remote c}

theorem Tracked.follows (hlaw : remote.Law settings.padding env) {succeeded : Fields Instant}
    {w w' : World ε Files} (h : Tracked env root settings remote c succeeded w)
    (hf : World.Follows env w w') : Tracked env root settings remote c succeeded w' := by
  obtain ⟨last, hlast, hrange, hready⟩ := h
  exact ⟨last, hlast, hrange, hready.follows hlaw hf⟩

namespace Session

/-- A poll that ends well is where the next one looks back to. -/
theorem Progress.succeeded_add (progress : Progress) (collection : String) (began : Instant)
    {poll : Poll} (h : poll ≠ .skipped) :
    (progress.add collection began poll).succeeded = progress.succeeded.put collection began := by
  cases poll with
  | seeded => rfl
  | evaluated changes fired => rfl
  | skipped => exact absurd rfl h

theorem Progress.succeeded_add_ne (progress : Progress) {collection : String} (began : Instant)
    (poll : Poll) (h : collection ≠ c) :
    (progress.add collection began poll).succeeded.get? c = progress.succeeded.get? c := by
  cases poll with
  | skipped => rfl
  | seeded => exact Fields.get?_put_ne h _ _
  | evaluated changes fired => exact Fields.get?_put_ne h _ _

end Session

namespace PollRecord

variable {r : PollRecord ε} {progress : Session.Progress}

/-- The poll of another collection. -/
theorem Ends.tracked_of_ne (hf : Faithful env settings remote c) (h : r.Ends env root settings)
    (hw : r.Watched env root settings c) (hne : r.collection.id ≠ c)
    (ht : Tracked env root settings remote c progress.succeeded r.before) (poll : Poll) :
    Tracked env root settings remote c
      (progress.add r.collection.id r.began poll).succeeded r.after := by
  obtain ⟨last, hlast, hrange, hready⟩ := ht
  refine ⟨last, ?_, hrange, hready.step hf.law h.reaches (h.held_of_ne fun he => hne (hw.own he))⟩
  rw [progress.succeeded_add_ne r.began poll hne]
  exact hlast

/-- A successful poll after which the stored records are fresh since its beginning. -/
theorem tracked_of_ready (hw : r.Watched env root settings c) (hc : r.collection.id = c)
    (hready : Ready env root settings remote c r.began.nanoseconds r.after) {poll : Poll}
    (hp : poll ≠ .skipped) :
    Tracked env root settings remote c
      (progress.add r.collection.id r.began poll).succeeded r.after := by
  refine ⟨r.began, ?_, hw.range hc, hready⟩
  rw [progress.succeeded_add _ _ hp, hc]
  exact Fields.get?_put_self _ _ _

/-- The poll of the collection itself misses nothing if it succeeds. -/
theorem Ends.tracked (hf : Faithful env settings remote c) (h : r.Ends env root settings)
    (hw : r.Watched env root settings c) (hc : r.collection.id = c)
    (hbegan : r.began.nanoseconds ≤ remote.time r.before.env)
    (hlast : r.session.lastSuccess.get? c = progress.succeeded.get? c)
    (ht : Tracked env root settings remote c progress.succeeded r.before) :
    (r.Succeeds → r.Complete env root settings remote) ∧
      ∀ poll, r.result = .ok poll → Tracked env root settings remote c
        (progress.add r.collection.id r.began poll).succeeded r.after := by
  obtain ⟨last, hknown, hrange, hready⟩ := ht
  rcases h.complete_of_ready hf hw hc hbegan (hlast.trans hknown) hrange hready with
    ⟨⟨poll, hr, hne⟩, hcomplete, hafter⟩ | ⟨hfails, hafter⟩
  · refine ⟨fun _ => hcomplete, fun other ho => ?_⟩
    rw [hr] at ho
    cases ho
    exact tracked_of_ready hw hc hafter hne
  · refine ⟨fun hsucceeds => absurd hsucceeds hfails, fun poll hr => ?_⟩
    have hskipped : poll = .skipped := by
      by_contra hne
      exact hfails ⟨poll, hr, hne⟩
    subst hskipped
    exact ⟨last, hknown, hrange, hafter⟩

/-- So does the poll that seeds it. -/
theorem Ends.tracked_of_seeded (hf : Faithful env settings remote c) (h : r.Ends env root settings)
    (hw : r.Watched env root settings c) (hc : r.collection.id = c)
    (hbegan : r.began.nanoseconds ≤ remote.time r.before.env) (hr : r.result = .ok .seeded) :
    r.Complete env root settings remote ∧
      Tracked env root settings remote c
        (progress.add r.collection.id r.began .seeded).succeeded r.after := by
  obtain ⟨hcomplete, hready⟩ := h.complete_of_seeded hf hw hc hbegan hr
  exact ⟨hcomplete, tracked_of_ready hw hc hready Poll.noConfusion⟩

end PollRecord

/-! ### Cycles -/

namespace Session

variable (env root settings remote c)

/-- Polls of a cycle that miss nothing of the collection, and after which it is tracked. -/
structure Tracks (progress : Progress) (records : List (PollRecord ε)) (w : World ε Files) :
    Prop where
  complete {r : PollRecord ε} (h : r ∈ records) (hc : r.collection.id = c) (hs : r.Succeeds) :
    r.Complete env root settings remote
  tracked {ended : Progress} (h : advance progress records = .ok ended) :
    Tracked env root settings remote c ended.succeeded (final w records)

variable {env root settings remote c}

theorem tracks_cons {progress : Progress} {r : PollRecord ε} {rest : List (PollRecord ε)}
    {w : World ε Files} {poll : Poll}
    (hfirst : r.collection.id = c → r.Succeeds → r.Complete env root settings remote)
    (hr : r.result = .ok poll)
    (hrest : Tracks env root settings remote c (progress.add r.collection.id r.began poll) rest
      r.after) :
    Tracks env root settings remote c progress (r :: rest) w := by
  refine ⟨fun h hc hs => ?_, fun h => ?_⟩
  · rcases List.mem_cons.mp h with rfl | h
    · exact hfirst hc hs
    · exact hrest.complete h hc hs
  · rw [advance_ok hr] at h
    rw [final_cons]
    exact hrest.tracked h

theorem tracks_error {progress : Progress} {r : PollRecord ε} {w : World ε Files}
    {error : SessionError}
    (hfirst : r.collection.id = c → r.Succeeds → r.Complete env root settings remote)
    (hr : r.result = .error error) : Tracks env root settings remote c progress [r] w := by
  refine ⟨fun h hc hs => ?_, fun h => ?_⟩
  · rw [List.mem_singleton.mp h] at hc hs ⊢
    exact hfirst hc hs
  · rw [advance_error hr] at h
    cases h

/-- The rest of a cycle after the first poll. -/
theorem tracks_polls_cons {session : Session} {collection : Collection} {rest : List Collection}
    {w : World ε Files} {progress : Progress}
    (hfirst : (session.record env root settings collection w).collection.id = c →
      (session.record env root settings collection w).Succeeds →
        (session.record env root settings collection w).Complete env root settings remote)
    (hrest : ∀ poll, (session.record env root settings collection w).result = .ok poll →
      Tracks env root settings remote c (progress.add collection.id
          (session.record env root settings collection w).began poll)
        (session.polls env root settings rest
          (session.record env root settings collection w).after)
        (session.record env root settings collection w).after) :
    Tracks env root settings remote c progress
      (session.polls env root settings (collection :: rest) w) w := by
  cases hr : (session.record env root settings collection w).result with
  | error error =>
    rw [polls_error env root settings hr]
    exact tracks_error hfirst hr
  | ok poll =>
    rw [polls_ok env root settings hr]
    exact tracks_cons hfirst hr (hrest poll hr)

/-- A cycle in which a tracked collection is polled at most once. -/
theorem tracks_polls (hf : Faithful env settings remote c) (session : Session)
    {collections : List Collection} (hd : (collections.map Collection.id).Nodup)
    {progress : Progress} {w : World ε Files}
    (hlast : c ∈ collections.map Collection.id →
      session.lastSuccess.get? c = progress.succeeded.get? c)
    (hw : ∀ r ∈ session.polls env root settings collections w, r.Watched env root settings c)
    (ht : Tracked env root settings remote c progress.succeeded w) :
    Tracks env root settings remote c progress (session.polls env root settings collections w)
      w := by
  induction collections generalizing progress w with
  | nil =>
    refine ⟨fun h => absurd h List.not_mem_nil, fun h => ?_⟩
    cases h
    exact ht
  | cons collection rest ih =>
    obtain ⟨hnot, hd⟩ := List.nodup_cons.mp hd
    have hpolled : (session.record env root settings collection w).Polled env root settings :=
      ⟨session, collection, w, rfl⟩
    have hfirst := hw _ ((mem_polls_cons env root settings).mpr (.inl rfl))
    have hends := hpolled.ends hfirst.place
    have hbefore := ht.follows hf.law (record_before env root settings session collection w)
    -- The session looks back to the last success before this cycle. Until the collection's own poll
    -- the progress has the same one, and there is no second poll of it.
    by_cases hc : collection.id = c
    · obtain ⟨hcomplete, htracked⟩ := hends.tracked hf hfirst hc (hpolled.began_le hf.law)
        (hlast (hc ▸ List.mem_cons_self)) hbefore
      refine tracks_polls_cons (fun _ => hcomplete) fun poll hr => ih hd (fun hmem => ?_)
        (fun r hrest => hw r ((mem_polls_cons env root settings).mpr (.inr ⟨⟨poll, hr⟩, hrest⟩)))
        (htracked poll hr)
      exact absurd (hc ▸ hmem) hnot
    · refine tracks_polls_cons (fun h => absurd h hc) fun poll hr => ih hd (fun hmem => ?_)
        (fun r hrest => hw r ((mem_polls_cons env root settings).mpr (.inr ⟨⟨poll, hr⟩, hrest⟩)))
        (hends.tracked_of_ne hf hfirst hc hbefore poll)
      rw [progress.succeeded_add_ne _ poll hc]
      exact hlast (List.mem_cons_of_mem _ hmem)

/-- A cycle in which the collection is seeded. -/
theorem tracks_polls_of_seeded (hf : Faithful env settings remote c) (session : Session)
    {collections : List Collection} (hd : (collections.map Collection.id).Nodup)
    {progress : Progress} {w : World ε Files}
    (hw : ∀ r ∈ session.polls env root settings collections w, r.Watched env root settings c)
    (hs : ∃ s ∈ session.polls env root settings collections w,
      s.collection.id = c ∧ s.result = .ok .seeded) :
    Tracks env root settings remote c progress (session.polls env root settings collections w)
      w := by
  induction collections generalizing progress w with
  | nil =>
    obtain ⟨s, hs, -⟩ := hs
    cases hs
  | cons collection rest ih =>
    obtain ⟨hnot, hd⟩ := List.nodup_cons.mp hd
    obtain ⟨s, hs, hsc, hseeded⟩ := hs
    have hpolled : (session.record env root settings collection w).Polled env root settings :=
      ⟨session, collection, w, rfl⟩
    have hfirst := hw _ ((mem_polls_cons env root settings).mpr (.inl rfl))
    rcases (mem_polls_cons env root settings).mp hs with rfl | ⟨-, hs⟩
    · obtain ⟨hcomplete, htracked⟩ := (hpolled.ends hfirst.place).tracked_of_seeded hf hfirst hsc
        (hpolled.began_le hf.law) hseeded
      refine tracks_polls_cons (fun _ _ => hcomplete) fun poll hr => ?_
      rw [hseeded] at hr
      cases hr
      exact tracks_polls hf session hd (fun hmem => absurd (hsc ▸ hmem) hnot)
        (fun r hrest => hw r ((mem_polls_cons env root settings).mpr (.inr ⟨⟨_, hseeded⟩, hrest⟩)))
        htracked
    · have hc : collection.id ≠ c := by
        rintro rfl
        refine hnot (List.mem_map.mpr ⟨s.collection, ?_, hsc⟩)
        exact collection_of_mem_polls env root settings hs
      refine tracks_polls_cons (fun h => absurd h hc) fun poll hr => ?_
      exact ih hd
        (fun r hrest => hw r ((mem_polls_cons env root settings).mpr (.inr ⟨⟨poll, hr⟩, hrest⟩)))
        ⟨s, hs, hsc, hseeded⟩

end Session

end

end RecordWatch
