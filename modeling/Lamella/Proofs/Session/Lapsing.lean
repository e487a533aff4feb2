import Lamella.Proofs.Session.Ahead

/-!
# Judging in a session that is ahead

Where one session is ahead of another by some lapsed notes, a sweep in both misses these notes in
the other, and an estimate hits the same note in both, since none of the lapsed ones is in the hit
zone any more. So a tick of both lets the other catch up. A tick of the one alone takes it further
ahead.

## Main statements

- `Session.Ahead.sweep`, `Session.Ahead.judge`: what sweeping and judging in both leave.
- `Session.Ahead.tick`: a tick of both.
- `Session.Ahead.extra`: a tick of the one that is ahead.
-/

namespace Lamella.Session.Ahead

variable {F R : Type} [Analytic F] [Scalar R] [Scalar.Orderly R] {c : Setup F R}
  {s t : Session F R} {unmixed : Prop} {past now : R} {lapsed : List (Note R)}

/-! ## §1 Sweeping and judging in both -/

/-- What a sweep writes in a session that is ahead of one that is not finished. -/
theorem sweep_writes (h : Ahead c unmixed now lapsed s t) (hgains : c.scoring.Gains)
    (hgoing : s.phase ≠ .finished) :
    (t.sweep c).2.ledger = t.ledger ++ lapse (leaving c (t.inputTime c) t.pending) ∧
      (t.sweep c).2.pending = t.pending.dropWhile (hasLeft c (t.inputTime c)) := by
  cases hfrozen : t.keeper.frozen with
  | false => exact (h.sound'.sweep_writes hgains hfrozen h.order.2).2
  | true =>
    have hnone := h.pending_of_finished hgoing (h.sound'.steady.frozen_iff.mp hfrozen)
    obtain ⟨hledger, hpending⟩ := sweep_of_frozen (c := c) hfrozen
    rw [hledger, hpending, hnone]
    exact ⟨(List.append_nil _).symm, rfl⟩

/-- A sweep of both leaves the second ahead, by the notes that only it has missed so far. -/
theorem sweep (h : Ahead c unmixed now lapsed s t) (hgains : c.scoring.Gains) :
    ∃ lapsed', Ahead c unmixed now lapsed' (s.sweep c).2 (t.sweep c).2 := by
  have hsweeps := fun lapsed' : List (Note R) =>
    h.of_sameCourse lapsed' (sweep_sameCourse c s) (sweep_sameCourse c t)
      (sweepFrom_seen ..) (sweepFrom_seen ..) (h.sound.sweep hgains) (h.sound'.sweep hgains)
  by_cases hfinished : s.phase = .finished
  · -- Both are finished, so that nothing changes
    obtain ⟨hledger, hpending⟩ :=
      sweep_of_frozen (c := c) (h.sound.steady.frozen_iff.mpr hfinished)
    obtain ⟨hledger', hpending'⟩ :=
      sweep_of_frozen (c := c) (h.sound'.steady.frozen_iff.mpr (h.finished hfinished))
    rw [hledger, hpending, hledger', hpending'] at hsweeps
    exact ⟨lapsed, hsweeps lapsed h.pending h.ledger h.same h.stays h.settled id⟩
  have hopen : s.keeper.frozen = false :=
    Bool.eq_false_iff.mpr fun hfrozen => hfinished (h.sound.steady.frozen_iff.mp hfrozen)
  obtain ⟨-, hledger, hpending⟩ := h.sound.sweep_writes hgains hopen h.order.1
  obtain ⟨hledger', hpending'⟩ := h.sweep_writes hgains hfinished
  rw [hledger, hpending, hledger', hpending', h.pending] at hsweeps
  -- What has left in the first has left in the second and stays left
  have hleft : ∀ n ∈ t.pending,
      (hasLeft c (s.inputTime c) n = true → hasLeft c (t.inputTime c) n = true) ∧
        (hasLeft c (t.inputTime c) n = true → s.StaysLeft c now n) := by
    intro n hn
    rcases h.pace with hlevel | hover
    · exact ⟨hlevel.left n, hlevel.stays n⟩
    · rw [hover.done.resolve_left hfinished] at hn
      cases hn
  -- So the first sweep gets no further than the second, which began behind the lapsed notes
  obtain ⟨rest, hrest, hdrop⟩ := Order.dropWhile_ahead lapsed fun n hn => (hleft n hn).1
  have hlapse : lapse lapsed ++ lapse (leaving c (t.inputTime c) t.pending) =
      lapse (leaving c (s.inputTime c) (lapsed ++ t.pending)) ++ lapse rest := by
    rw [← lapse_append, ← lapse_append, leaving, leaving, hrest]
  refine ⟨rest, hsweeps rest hdrop ?_ (fun hunmixed => ?_) (fun n hn => ?_) (absurd · hfinished) ?_⟩
  · rw [List.append_assoc, ← hlapse, ← List.append_assoc]
    exact h.ledger.append_right _
  · rw [List.append_assoc, ← hlapse, ← List.append_assoc, h.same hunmixed]
  · have hmem : n ∈ lapsed ++ leaving c (t.inputTime c) t.pending := by
      rw [leaving, ← hrest]
      exact List.mem_append_right _ hn
    rcases List.mem_append.mp hmem with hold | hnew
    · exact h.stays n hold
    · exact (hleft n ((List.takeWhile_sublist _).subset hnew)).2 (List.mem_takeWhile_imp hnew)
  · intro hnone
    rw [hnone]
    rfl

/-- An estimate that is judged in both hits the same note. -/
theorem judge (h : Ahead c unmixed now [] s t) (hgains : c.scoring.Gains)
    (hsynced : Synced c [] s t) (pitch : HeardPitch F) :
    Ahead c unmixed now [] (s.judge c pitch).2 (t.judge c pitch).2 := by
  cases hactive : s.phase.isActive with
  | false =>
    rw [judge_of_idle hactive, judge_of_idle (h.resting hactive)]
    exact h
  | true =>
    obtain ⟨-, hmarks⟩ := h.sound.judge_writes hgains hactive pitch
    have hjudges := fun {t' : Session F R} (ht : t.SameCourse t') =>
      h.of_sameCourse [] (judge_sameCourse c pitch s) ht
    rw [hmarks.ledger, hmarks.pending, lapse_nil, List.append_nil] at hjudges
    have hledger := h.ledger
    have hsame := h.same
    rw [lapse_nil, List.append_nil] at hledger hsame
    rcases h.going hactive with ⟨-, hactive'⟩ | ⟨-, hidle', hnone⟩
    · obtain ⟨-, hmarks'⟩ := h.sound'.judge_writes hgains hactive' pitch
      -- With nothing lapsed both have the same hit zone
      have htime := (hsynced hactive).2 hactive'
      have hzone : t.hitZone c = s.hitZone c := by
        rw [hitZone_eq h.order.1, hitZone_eq h.order.2, htime, h.pending]
        rfl
      rw [found_congr htime hzone] at hmarks'
      refine hjudges (judge_sameCourse c pitch t) (judge_seen ..) (judge_seen ..)
        (h.sound.judge hgains pitch) (h.sound'.judge hgains pitch) ?_ ?_ (fun hunmixed => ?_) nofun
        (fun _ => rfl) fun hnone => ?_
      · rw [hmarks'.pending, h.pending]
        rfl
      · rw [hmarks'.ledger]
        exact hledger.append_right _
      · rw [hmarks'.ledger, hsame hunmixed]
      · rw [hmarks'.pending, hnone]
        rfl
    · -- In the second there is nothing left to hit, so neither is there in the first
      have hnone' : s.pending = [] := h.pending.trans hnone
      have hzone : s.hitZone c = [] := by
        rw [hitZone_eq h.order.1, hnone']
        rfl
      rw [found_of_empty hzone, hnone', made_ok, Option.toList_none, List.map_nil,
        List.append_nil] at hjudges
      rw [judge_of_idle hidle']
      refine hjudges (.refl t) (judge_seen ..) rfl (h.sound.judge hgains pitch) h.sound' ?_ hledger
        hsame nofun (fun _ => rfl) id
      rw [hnone]
      rfl

/-! ## §2 Ticks of both -/

/-- A tick that advances both leaves the second ahead by what then lapses. -/
theorem of_advanced {s' t' : Session F R} (h : Ahead c unmixed past lapsed s t)
    (lapsed' : List (Note R)) (hlevel : Level c past s t)
    (hs : Advanced c now s s') (ht : Advanced c now t t') (hsong : s'.song = s.song)
    (hsong' : t'.song = t.song) (hsound : s'.Sound c) (hsound' : t'.Sound c)
    (hover : s'.phase = .finished ↔ t'.phase = .finished)
    (hpending : s'.pending = lapsed' ++ t'.pending)
    (hledger : t'.ledger.Perm (s'.ledger ++ lapse lapsed'))
    (hsame : unmixed → t'.ledger = s'.ledger ++ lapse lapsed')
    (hleft : ∀ n ∈ lapsed', hasLeft c (s.heardAt c now) n = true)
    (hsettled : s'.phase = .finished → lapsed' = []) :
    Ahead c unmixed now lapsed' s' t' ∧ Synced c lapsed' s' t' := by
  have htime : s'.inputTime c = s.heardAt c now := by rw [inputTime, hs.progress, heardAt]
  have htime' : t'.inputTime c = s.heardAt c now := by
    rw [inputTime, ht.progress, heardAt, hlevel.anchor]
  have hgoing : s'.phase ≠ .paused := by
    rcases hs.phase with hactive | hfinished
    · exact (Phase.ne_of_isActive hactive).2.1
    · rw [hfinished]
      decide
  refine ⟨?_, fun _ => ⟨fun n hn => htime ▸ hleft n hn, fun _ => htime'.trans htime.symm⟩⟩
  exact {
    sound := hsound
    sound' := hsound'
    fits := fun song h' => h.fits song (hsong.symm.trans h')
    song := by rw [hsong', hsong, h.song]
    slot := by rw [ht.slot, hs.slot, h.slot]
    pending := hpending
    ledger := hledger
    same := hsame
    stays := by
      intro n hn
      refine staysLeft_of_hasLeft hgoing ?_
      rw [heardAt, hs.anchor]
      exact hleft n hn
    settled := hsettled
    pace := by
      rcases hs.phase with hactive | hfinished
      · refine .inl (hlevel.of_advanced h.slot hs ht hactive (ht.phase.resolve_right fun h' => ?_))
        exact absurd (hover.mpr h') (Phase.ne_of_isActive hactive).2.2
      · exact .inr ⟨.inr (hover.mp hfinished), .inl hfinished⟩ }

/-- At a tick of both the lapsed notes are out of the hit zone, so that it is that of the second. -/
theorem hitZone_moved_eq (h : Ahead c unmixed past lapsed s t) (hpast : past ≤ now)
    (hactive : s.phase.isActive = true) (hfirm : Firm c s (now, .tick)) :
    (s.moved c now).hitZone c = t.pending.filter (inWindow c (s.heardAt c now)) := by
  rw [hitZone_moved h.order.1, h.pending, List.filter_append, List.filter_eq_nil_iff.mpr,
    List.nil_append]
  intro n hn
  have hmem : n ∈ s.pending := h.pending ▸ List.mem_append_left _ hn
  simp [inWindow, hfirm hactive n hmem (h.lapsed_left hactive hpast n hn)]

/-- A tick of both judges the same estimate in both. -/
theorem heard_eq (h : Ahead c unmixed past lapsed s t) (hpast : past ≤ now)
    (hactive : s.phase.isActive = true) (hfirm : Firm c s (now, .tick))
    (hlevel : Level c past s t) : (t.moved c now).heard c = (s.moved c now).heard c := by
  refine heard_congr h.slot hlevel.seen (hlevel.heardAt_eq now) ?_
  rw [h.hitZone_moved_eq hpast hactive hfirm, hitZone_moved h.order.2, hlevel.heardAt_eq]

/-- The note that it hits is pending in both, and is none of the lapsed ones. -/
theorem without_heard (h : Ahead c unmixed past lapsed s t) (hpast : past ≤ now)
    (hactive : s.phase.isActive = true) (hfirm : Firm c s (now, .tick)) {hit : Option (Hit F R)}
    (hhit : (s.moved c now).heard c = .ok hit) :
    without hit.toList s.pending = lapsed ++ without hit.toList t.pending := by
  refine h.without_eq fun k hk => ?_
  obtain rfl : hit = some k := by simpa using hk
  obtain ⟨n, hn, hnote⟩ := mem_hitZone_of_heard hhit
  rw [h.hitZone_moved_eq hpast hactive hfirm] at hn
  exact ⟨n, List.mem_of_mem_filter hn, hnote⟩

/-- A tick that finds the second session over lets the first catch up. -/
theorem tick_of_over (h : Ahead c unmixed past lapsed s t) (hgains : c.scoring.Gains)
    (hpast : past ≤ now) (hfirm : Firm c s (now, .tick)) (hactive : s.phase.isActive = true)
    (hover : Over s t) (hnone : t.pending = []) :
    Ahead c unmixed now [] (s.tick c now).2 t := by
  obtain ⟨song, hsong⟩ := Option.ne_none_iff_exists'.mp (h.sound.steady.of_active hactive).1
  have hleft := h.lapsed_left hactive hpast
  -- Nothing is in the hit zone, so that the tick only sweeps
  have hheard : (s.moved c now).heard c = .ok none := by
    refine heard_of_empty ?_
    rw [h.hitZone_moved_eq hpast hactive hfirm, hnone]
    rfl
  have hpending : s.pending = lapsed := by rw [h.pending, hnone, List.append_nil]
  rcases h.sound.tick_writes hgains h.order.1 hactive hsong now with
    ⟨fault, hfault, -⟩ | ⟨hit, hhit, hledger, hrest, -⟩
  · exact absurd (hfault.symm.trans hheard) nofun
  obtain rfl : none = hit := Except.ok.inj (hheard.symm.trans hhit)
  have hall : leaving c (s.heardAt c now) lapsed = lapsed := List.takeWhile_eq_self_iff.mpr hleft
  rw [Option.toList_none, without_nil, hpending] at hledger hrest
  rw [hall, List.map_nil, List.append_nil] at hledger
  rw [List.dropWhile_eq_nil_iff.mpr hleft] at hrest
  exact {
    sound := h.sound.tick hgains now
    sound' := h.sound'
    fits := fun song' hsong' => h.fits song' ((song_tick c now s).symm.trans hsong')
    song := h.song.trans (song_tick c now s).symm
    slot := h.slot.trans (tick_advanced now hactive hsong).slot.symm
    pending := by rw [hrest, hnone]; rfl
    ledger := by rw [hledger, lapse_nil, List.append_nil]; exact h.ledger
    same := fun hunmixed => by rw [hledger, lapse_nil, List.append_nil]; exact h.same hunmixed
    stays := nofun
    settled := fun _ => rfl
    pace := .inr ⟨hover.phase, .inr hnone⟩ }

/-- **A tick of both.** It judges the same estimate in both, and then the first catches up, unless
judging fails. -/
theorem tick_of_level (h : Ahead c unmixed past lapsed s t) (hgains : c.scoring.Gains)
    (hpast : past ≤ now) (hfirm : Firm c s (now, .tick))
    (hunmixed : unmixed → Unmixed c s (now, .tick)) (hactive : s.phase.isActive = true)
    (hlevel : Level c past s t) (hactive' : t.phase.isActive = true) :
    ∃ lapsed', Ahead c unmixed now lapsed' (s.tick c now).2 (t.tick c now).2 ∧
      Synced c lapsed' (s.tick c now).2 (t.tick c now).2 := by
  obtain ⟨song, hsong⟩ := Option.ne_none_iff_exists'.mp (h.sound.steady.of_active hactive).1
  have hsong' : t.song = some song := h.song.trans hsong
  have hleft := h.lapsed_left hactive hpast
  have hheard := h.heard_eq hpast hactive hfirm hlevel
  have hticks := fun lapsed' : List (Note R) => h.of_advanced lapsed' hlevel
    (tick_advanced now hactive hsong) (tick_advanced now hactive' hsong')
    (song_tick c now s) (song_tick c now t) (h.sound.tick hgains now) (h.sound'.tick hgains now)
  rcases h.sound.tick_writes hgains h.order.1 hactive hsong now with
    ⟨fault, hfault, hledger, hpending, hgoing⟩ | ⟨hit, hhit, hledger, hpending, hover⟩
  · rcases h.sound'.tick_writes hgains h.order.2 hactive' hsong' now with
      ⟨_, _, hledger', hpending', hgoing'⟩ | ⟨hit, hhit, -⟩
    · rw [hledger, hpending, hledger', hpending'] at hticks
      exact ⟨lapsed, hticks lapsed ⟨fun h' => absurd h' hgoing, fun h' => absurd h' hgoing'⟩ h.pending
        h.ledger h.same hleft fun h' => absurd h' hgoing⟩
    · rw [hheard, hfault] at hhit
      cases hhit
  · rcases h.sound'.tick_writes hgains h.order.2 hactive' hsong' now with
      ⟨fault, hfault, -⟩ | ⟨hit', hhit', hledger', hpending', hover'⟩
    · rw [hheard, hhit] at hfault
      cases hfault
    rw [hheard, hhit] at hhit'
    obtain rfl := Except.ok.inj hhit'
    rw [hlevel.heardAt_eq] at hledger' hpending'
    rw [hlevel.anchor] at hover'
    -- The first now misses the lapsed notes too, before what both miss
    rw [h.without_heard hpast hactive hfirm hhit] at hledger hpending
    rw [List.dropWhile_append_of_pos hleft] at hpending
    have hleaving : leaving c (s.heardAt c now) (lapsed ++ without hit.toList t.pending) =
        lapsed ++ leaving c (s.heardAt c now) (without hit.toList t.pending) :=
      List.takeWhile_append_of_pos hleft
    rw [hleaving] at hledger
    refine ⟨[], hticks [] (hover.trans hover'.symm) (hpending.trans hpending'.symm) ?_ ?_ nofun
      fun _ => rfl⟩ <;> rw [hledger, hledger', lapse_append, lapse_nil, List.append_nil,
        ← List.append_assoc]
    · -- The first has written the hit before the lapsed notes, the second after them
      refine .append_right _ ((h.ledger.append_right _).trans ?_)
      rw [List.append_assoc, List.append_assoc]
      exact List.perm_append_comm.append_left _
    · intro hsame
      have hnone : hit.toList = [] ∨ lapsed = [] := by
        cases hit with
        | none => exact .inl rfl
        | some k =>
          have hnone := (hunmixed hsame).lapses_nothing h.sound hgains hactive hhit hledger
          exact .inr (List.append_eq_nil_iff.mp hnone).1
      rw [h.same hsame]
      rcases hnone with hnone | hnone <;> rw [hnone] <;> simp

/-- A tick of both leaves the second ahead, and both at one song time. -/
theorem tick (h : Ahead c unmixed past lapsed s t) (hgains : c.scoring.Gains) (hpast : past ≤ now)
    (hfirm : Firm c s (now, .tick)) (hunmixed : unmixed → Unmixed c s (now, .tick)) :
    ∃ lapsed', Ahead c unmixed now lapsed' (s.tick c now).2 (t.tick c now).2 ∧
      Synced c lapsed' (s.tick c now).2 (t.tick c now).2 := by
  cases hactive : s.phase.isActive with
  | false =>
    rw [tick_of_idle now (.inl hactive), tick_of_idle now (.inl (h.resting hactive))]
    exact ⟨lapsed, h.later hpast, fun h' => absurd (h'.symm.trans hactive) nofun⟩
  | true =>
    rcases h.going hactive with ⟨hlevel, hactive'⟩ | ⟨hover, hidle, hnone⟩
    · exact h.tick_of_level hgains hpast hfirm hunmixed hactive hlevel hactive'
    · rw [tick_of_idle now (.inl hidle)]
      refine ⟨[], h.tick_of_over hgains hpast hfirm hactive hover hnone, fun _ => ⟨nofun, ?_⟩⟩
      exact fun h' => absurd (h'.symm.trans hidle) nofun

/-! ## §3 Ticks of the one that is ahead -/

/-- **A tick of the second session only.** With nothing new to read it only sweeps, and what it
sweeps lapses in the first. -/
theorem extra (h : Ahead c unmixed past lapsed s t) (hgains : c.scoring.Gains) (hpast : past ≤ now)
    (hread : HasRead t) : ∃ lapsed', Ahead c unmixed now lapsed' s (t.tick c now).2 := by
  cases hactive' : t.phase.isActive with
  | false =>
    rw [tick_of_idle now (.inl hactive')]
    exact ⟨lapsed, h.later hpast⟩
  | true =>
    -- The second goes on, and so the first goes on with it
    obtain ⟨hidle', hpaused', hfinished'⟩ := Phase.ne_of_isActive hactive'
    obtain ⟨hlevel, hactive⟩ : Level c past s t ∧ s.phase.isActive = true := by
      rcases h.pace with hlevel | hover
      · exact ⟨hlevel, (hlevel.phase.resolve_right fun h' => hpaused' h'.2).1⟩
      · exact absurd hover.phase (not_or.mpr ⟨hidle', hfinished'⟩)
    obtain ⟨-, hpaused, hfinished⟩ := Phase.ne_of_isActive hactive
    obtain ⟨song, hsong⟩ := Option.ne_none_iff_exists'.mp (h.sound'.steady.of_active hactive').1
    have hticked := tick_advanced (c := c) now hactive' hsong
    have htime := hlevel.heardAt_eq now
    have hheard : (t.moved c now).heard c = .ok none := if_pos (hread hactive').symm
    rcases h.sound'.tick_writes hgains h.order.2 hactive' hsong now with
      ⟨fault, hfault, -⟩ | ⟨hit, hhit, hledger, hpending, hover⟩
    · exact absurd (hfault.symm.trans hheard) nofun
    obtain rfl : none = hit := Except.ok.inj (hheard.symm.trans hhit)
    rw [Option.toList_none, without_nil] at hledger hpending
    rw [List.map_nil, List.append_nil] at hledger
    rw [htime] at hledger hpending
    have hstays : ∀ n, hasLeft c (s.heardAt c now) n = true → s.StaysLeft c now n :=
      fun n hn => staysLeft_of_hasLeft hpaused hn
    have htime' : (t.tick c now).2.inputTime c = s.heardAt c now := by
      rw [inputTime, hticked.progress, heardAt, hlevel.anchor]
    refine ⟨lapsed ++ leaving c (s.heardAt c now) t.pending, ?_⟩
    exact {
      sound := h.sound
      sound' := h.sound'.tick hgains now
      fits := h.fits
      song := (song_tick c now t).trans h.song
      slot := hticked.slot.trans h.slot
      pending := by
        rw [hpending, h.pending, List.append_assoc, leaving, List.takeWhile_append_dropWhile]
      ledger := by
        rw [hledger, lapse_append, ← List.append_assoc]
        exact h.ledger.append_right _
      same := fun hsame => by
        rw [hledger, lapse_append, ← List.append_assoc, h.same hsame]
      stays := by
        intro n hn
        rcases List.mem_append.mp hn with hold | hnew
        · exact (h.stays n hold).later hpast
        · exact hstays n (List.mem_takeWhile_imp hnew)
      settled := fun h' => absurd h' hfinished
      pace := by
        rcases hticked.phase with hstill | hends
        · refine .inl ⟨.inl ⟨hactive, hstill⟩, hticked.anchor.trans hlevel.anchor,
            hticked.pausedAt.trans hlevel.pausedAt, ?_, ?_, ?_⟩
          · rw [hticked.seen, ← hread hactive', hlevel.seen]
          · intro n hn
            rw [htime']
            exact (hlevel.stays n (hlevel.left n hn)).hasLeft hpaused hpast
          · intro n hn
            rw [htime'] at hn
            exact hstays n hn
        · -- A song that outlasts its notes ends only when all of them have left
          refine .inr ⟨.inr hends, .inr ?_⟩
          rw [hpending, ← htime]
          refine List.dropWhile_eq_nil_iff.mpr fun n hn => ?_
          refine (h.fits song (h.song.symm.trans hsong)).2 t.anchor now (hover.mp hends) n ?_
          rw [← notes_of_song hsong]
          exact mem_notes_of_pending hn }

end Lamella.Session.Ahead
