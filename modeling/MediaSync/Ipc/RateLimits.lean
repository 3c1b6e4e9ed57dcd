import Mathlib.Tactic.Linarith
import MediaSync.Ipc.Admission

/-! `Limited` is the invariant of a host under its limits; the windows of single clients are part of
it where no client is forgotten within its window. -/
namespace MediaSync.Ipc
open SlidingWindow Transition

section
variable {limits : IpcResourceLimits} {policy : ClientAuthorizationPolicy} {now now' last : ℚ}
  {frame : Frame} {host host' : Host} {response : IpcResponse} {passed passed' : List ℚ}
  {clients : List AcceptedClient} {client row : AcceptedClient} {s s' : State}

theorem IpcResourceLimits.bounds (limits : IpcResourceLimits) :
    1 ≤ limits.maxAcceptedClients ∧ 1 ≤ limits.maxGlobalFramesPerWindow ∧
      1 ≤ limits.maxClientFramesPerWindow ∧ 0 < limits.frameWindowSeconds := by
  have h := limits.accepted
  simp only [ResourceLimitFields.postInit] at h
  split at h
  · cases h
  rename_i hcounts
  split at h
  · cases h
  split at h
  · cases h
  rename_i hwindow
  simp only [List.any_cons, List.any_nil, Bool.or_false, Bool.or_eq_true,
    decide_eq_true_eq, not_or, not_lt] at hcounts
  exact ⟨hcounts.1, hcounts.2.1, hcounts.2.2, not_le.mp hwindow⟩

/-- What holds of the accepted clients whatever the limits are. -/
structure ClientsBounded (limits : IpcResourceLimits) (passed : List ℚ)
    (clients : List AcceptedClient) : Prop where
  count_le : (clients.length : ℤ) ≤ limits.maxAcceptedClients
  unique : Table.KeysUnique (·.clientInstanceId) clients
  frames_le : ∀ c ∈ clients, (c.frameTimes.length : ℤ) ≤ limits.maxClientFramesPerWindow
  frames_passed : ∀ c ∈ clients, ∀ t ∈ c.frameTimes, t ∈ passed

theorem ClientsBounded.mono (h : ClientsBounded limits passed clients) (hsub : passed ⊆ passed') :
    ClientsBounded limits passed' clients :=
  { h with frames_passed := fun c hc t ht => hsub (h.frames_passed c hc t ht) }

theorem ClientsBounded.expire (h : ClientsBounded limits passed host.acceptedClients) :
    ClientsBounded limits passed (expireIdleClients limits host now).acceptedClients where
  count_le := le_trans (by exact_mod_cast List.length_filter_le ..) h.count_le
  unique := h.unique.filter
  frames_le c hc := h.frames_le c (List.mem_of_mem_filter hc)
  frames_passed c hc := h.frames_passed c (List.mem_of_mem_filter hc)

theorem ClientsBounded.overwrite (h : ClientsBounded limits passed clients)
    (hle : (row.frameTimes.length : ℤ) ≤ limits.maxClientFramesPerWindow)
    (hpassed : ∀ t ∈ row.frameTimes, t ∈ passed) :
    ClientsBounded limits passed (Table.overwrite (·.clientInstanceId) clients row) where
  count_le := by simpa [Table.overwrite] using h.count_le
  unique := h.unique.overwrite
  frames_le c hc := by
    rcases Table.mem_overwrite hc with rfl | ⟨hc, -⟩
    · exact hle
    · exact h.frames_le c hc
  frames_passed c hc := by
    rcases Table.mem_overwrite hc with rfl | ⟨hc, -⟩
    · exact hpassed
    · exact h.frames_passed c hc

theorem Serves.clientsBounded (hs : Serves limits now frame host response host')
    (h : ClientsBounded limits passed host.acceptedClients) (hnow : now ∈ passed) :
    ClientsBounded limits passed host'.acceptedClients := by
  have hpruned {id : String} {client : AcceptedClient}
      (hc : (expireIdleClients limits host now).client id = some client) :
      ∀ t ∈ discardExpiredFrameTimes limits client.frameTimes now, t ∈ passed := fun t ht =>
    h.expire.frames_passed client (Table.lookup_mem hc) t (mem_of_discard ht)
  cases hs with
  | refused => exact h
  | unknown | full => exact h.expire
  | @joined id identity _ hfresh hroom =>
    have hb : ClientsBounded limits passed (expireIdleClients limits host now).acceptedClients :=
      h.expire
    refine ⟨by simpa [Int.add_one_le_iff] using hroom, hb.unique.insert hfresh,
      fun c hc => ?_, fun c hc => ?_⟩
    all_goals rcases List.mem_append.mp hc with hc | hc
    · exact hb.frames_le c hc
    · obtain rfl := List.mem_singleton.mp hc
      simpa using limits.bounds.2.2.1
    · exact hb.frames_passed c hc
    · obtain rfl := List.mem_singleton.mp hc
      simpa using hnow
  | clientLimited _ hc _ =>
    refine h.expire.overwrite ?_ (hpruned hc)
    have hlen := h.expire.frames_le _ (Table.lookup_mem hc)
    exact le_trans (by exact_mod_cast discard_length_le) hlen
  | admitted _ hc hlt =>
    refine h.expire.overwrite (by simpa [Int.add_one_le_iff] using hlt) fun t ht => ?_
    rcases List.mem_append.mp ht with ht | ht
    · exact hpruned hc t ht
    · exact List.mem_singleton.mp ht ▸ hnow

/-- The windows of the single clients, as far as no client is forgotten within its window. -/
structure ClientWindows (limits : IpcResourceLimits) (now : ℚ) (times : String → List ℚ)
    (clients : List AcceptedClient) : Prop where
  tracks : ∀ c ∈ clients,
    Tracks limits.frameWindowSeconds now (times c.clientInstanceId) c.frameTimes
  seen : ∀ c ∈ clients, ∀ t ∈ times c.clientInstanceId, t ≤ c.lastSeenMonotonic
  left : ∀ id, (∀ c ∈ clients, c.clientInstanceId ≠ id) →
    ∀ t ∈ times id, t ≤ now - limits.frameWindowSeconds
  past : ∀ id, ∀ t ∈ times id, t ≤ now
  spread : ∀ id, Spread limits.maxClientFramesPerWindow limits.frameWindowSeconds (times id)

variable {times times' : String → List ℚ}

theorem ClientWindows.mono (h : ClientWindows limits last times clients) (hle : last ≤ now) :
    ClientWindows limits now times clients where
  tracks c hc := (h.tracks c hc).mono hle
  seen := h.seen
  left id hid t ht := (h.left id hid t ht).trans (sub_le_sub_right hle _)
  past id t ht := (h.past id t ht).trans hle
  spread := h.spread

/-- An idle client is forgotten only after its frames have left the window. -/
theorem ClientWindows.expire (hidle : limits.frameWindowSeconds ≤ limits.acceptedClientIdleSeconds)
    (h : ClientWindows limits now times host.acceptedClients) :
    ClientWindows limits now times (expireIdleClients limits host now).acceptedClients where
  tracks c hc := h.tracks c (List.mem_of_mem_filter hc)
  seen c hc := h.seen c (List.mem_of_mem_filter hc)
  left id hid t ht := by
    by_cases hc : ∀ c ∈ host.acceptedClients, c.clientInstanceId ≠ id
    · exact h.left id hc t ht
    · push Not at hc
      obtain ⟨c, hc, rfl⟩ := hc
      have hgone : c.lastSeenMonotonic ≤ now - limits.acceptedClientIdleSeconds := by
        by_contra hin
        exact hid c (List.mem_filter.mpr ⟨hc, by simpa using hin⟩) rfl
      have := h.seen c hc t ht
      linarith
  past := h.past
  spread := h.spread

/-- A row that is brought up to date, whether it was there or is new. -/
theorem ClientWindows.put {clients' : List AcceptedClient}
    (h : ClientWindows limits now times clients)
    (hmem : ∀ c ∈ clients', c = row ∨ c ∈ clients ∧ c.clientInstanceId ≠ row.clientInstanceId)
    (hkept : ∀ c ∈ clients, c.clientInstanceId ≠ row.clientInstanceId → c ∈ clients')
    (hrow : row ∈ clients') (hother : ∀ id, id ≠ row.clientInstanceId → times' id = times id)
    (htracks : Tracks limits.frameWindowSeconds now (times' row.clientInstanceId) row.frameTimes)
    (hseen : ∀ t ∈ times' row.clientInstanceId, t ≤ row.lastSeenMonotonic)
    (hpast : ∀ t ∈ times' row.clientInstanceId, t ≤ now)
    (hspread : Spread limits.maxClientFramesPerWindow limits.frameWindowSeconds
      (times' row.clientInstanceId)) : ClientWindows limits now times' clients' where
  tracks c hc := by
    rcases hmem c hc with rfl | ⟨hc, hne⟩
    · exact htracks
    · exact hother _ hne ▸ h.tracks c hc
  seen c hc := by
    rcases hmem c hc with rfl | ⟨hc, hne⟩
    · exact hseen
    · exact hother _ hne ▸ h.seen c hc
  left id hid := by
    have hne : id ≠ row.clientInstanceId := (hid row hrow).symm
    refine hother id hne ▸ h.left id fun c hc hcid => ?_
    exact hid c (hkept c hc (hcid ▸ hne)) hcid
  past id := by
    by_cases hid : id = row.clientInstanceId
    · exact hid ▸ hpast
    · exact hother id hid ▸ h.past id
  spread id := by
    by_cases hid : id = row.clientInstanceId
    · exact hid ▸ hspread
    · exact hother id hid ▸ h.spread id

/-- The admission of a frame of the client `id`, in the times of every client. -/
def recordAt (times : String → List ℚ) (id : Option String) (now : ℚ) (x : String) : List ℚ :=
  if id = some x then now :: times x else times x

theorem Serves.clientWindows (hs : Serves limits now frame host response host')
    (hidle : limits.frameWindowSeconds ≤ limits.acceptedClientIdleSeconds)
    (h : ClientWindows limits now times host.acceptedClients) :
    ClientWindows limits now
      (if response = .admitted then recordAt times frame.clientInstanceId now else times)
      host'.acceptedClients := by
  have he := h.expire hidle
  cases hs with
  | refused => exact h
  | unknown | full => exact he
  | @joined id identity hid hfresh _ =>
    have hunseen := he.left id (Table.lookup_none_iff.mp hfresh)
    have hself : recordAt times frame.clientInstanceId now id = now :: times id := by
      simp [recordAt, hid]
    have hall : ∀ t ∈ now :: times id, t ≤ now := by
      simpa using h.past id
    have htr : Tracks limits.frameWindowSeconds now (times id) [] := .all_left hunseen
    have hrow : (⟨id, identity, now, [now]⟩ : AcceptedClient) ∈
        (expireIdleClients limits host now).acceptedClients ++ [⟨id, identity, now, [now]⟩] :=
      List.mem_append_right _ List.mem_cons_self
    refine he.put (fun c hc => ?_) (fun c hc _ => List.mem_append_left _ hc) hrow
      (fun x hx => ?_) ?_ ?_ ?_ ?_
    · rcases List.mem_append.mp hc with hc | hc
      · exact .inr ⟨hc, Table.lookup_none_iff.mp hfresh c hc⟩
      · exact .inl (List.mem_singleton.mp hc)
    · simp [recordAt, hid, Ne.symm hx]
    · simpa [hself] using htr.record
    · simpa [hself] using hall
    · simpa [hself] using hall
    · simpa [hself] using (he.spread id).record htr
        (by simpa using Int.lt_of_lt_of_le Int.zero_lt_one limits.bounds.2.2.1)
  | @clientLimited id client hid hc _ =>
    have hmem := Table.lookup_mem hc
    exact he.put (fun _ hc => Table.mem_overwrite hc)
      (fun _ hc hne => Table.mem_overwrite_of_ne hc hne) (Table.mem_overwrite_self hmem rfl)
      (fun _ _ => rfl) (he.tracks client hmem).discard (he.seen client hmem) (he.past _)
      (he.spread _)
  | @admitted id client identity hid hc hlt =>
    have hmem := Table.lookup_mem hc
    obtain rfl := Table.lookup_key hc
    have hself : recordAt times frame.clientInstanceId now client.clientInstanceId =
        now :: times client.clientInstanceId := by
      simp [recordAt, hid]
    have hall : ∀ t ∈ now :: times client.clientInstanceId, t ≤ now := by
      simpa using h.past client.clientInstanceId
    have htr := (he.tracks client hmem).discard
    refine he.put (fun _ hc => Table.mem_overwrite hc)
      (fun _ hc hne => Table.mem_overwrite_of_ne hc hne) (Table.mem_overwrite_self hmem rfl)
      (fun x hx => ?_) ?_ ?_ ?_ ?_
    · simp [recordAt, hid, Ne.symm hx]
    · simp only [if_true, hself]
      exact htr.record
    · simpa [hself] using hall
    · simpa [hself] using hall
    · simpa [hself] using (he.spread _).record htr hlt

structure Limited (limits : IpcResourceLimits) (s : State) : Prop where
  clients : ClientsBounded limits s.passed s.host.acceptedClients
  tracks : Tracks limits.frameWindowSeconds s.last s.passed s.host.globalFrameTimes
  sorted : s.passed.Pairwise (· ≥ ·)
  past : ∀ t ∈ s.passed, t ≤ s.last
  global_le : (s.host.globalFrameTimes.length : ℤ) ≤ limits.maxGlobalFramesPerWindow
  spread : Spread limits.maxGlobalFramesPerWindow limits.frameWindowSeconds s.passed
  windows : limits.frameWindowSeconds ≤ limits.acceptedClientIdleSeconds →
    ClientWindows limits s.last s.admittedTimes s.host.acceptedClients

theorem Limited.init (h : (hostSystem limits policy).init s) : Limited limits s := by
  obtain ⟨hhost, hpassed, hadmitted⟩ := h
  have hbounds := limits.bounds
  have htimes : s.admittedTimes = fun _ => [] := by
    funext id
    simp [State.admittedTimes, hadmitted]
  refine ⟨⟨?_, ?_, ?_, ?_⟩, ?_, ?_, ?_, ?_, ?_, fun _ => ⟨?_, ?_, ?_, ?_, ?_⟩⟩ <;>
    simp only [hhost, hpassed, htimes]
  all_goals simp [Table.KeysUnique, Spread, Tracks.all_left]
  all_goals omega

theorem Serves.globalFrameTimes_eq (hs : Serves limits now frame host response host') :
    host'.globalFrameTimes = host.globalFrameTimes := by
  cases hs <;> rfl

theorem Serves.passedGlobalLimit (hs : Serves limits now frame host response host') :
    response.passedGlobalLimit = true := by
  cases hs <;> rfl

theorem Limited.step {l : ℚ × Frame} (h : Limited limits s)
    (hs : (hostSystem limits policy).step s l = some s') : Limited limits s' := by
  simp only [hostSystem] at hs
  split at hs
  · cases hs
  rename_i hlast
  obtain ⟨now, frame⟩ := l
  have hle : s.last ≤ now := not_lt.mp hlast
  obtain rfl := (Option.some.inj hs).symm
  have htr := (h.tracks.mono hle).discard
  obtain ⟨hfull, heq⟩ | ⟨hroom, hserve⟩ :=
    handle_cases limits policy s.host now frame
  · simp only [heq]
    exact ⟨h.clients, htr, h.sorted, fun t ht => (h.past t ht).trans hle,
      le_trans (by exact_mod_cast discard_length_le) h.global_le, h.spread,
      fun hidle => (h.windows hidle).mono hle⟩
  · have hpast : ∀ t ∈ s.passed, t ≤ now := fun t ht => (h.past t ht).trans hle
    simp only [hserve.passedGlobalLimit, if_true]
    refine ⟨hserve.clientsBounded (h.clients.mono (List.subset_cons_self now _))
        List.mem_cons_self,
      hserve.globalFrameTimes_eq ▸ htr.record, .cons hpast h.sorted, ?_, ?_,
      h.spread.record htr hroom, fun hidle => ?_⟩
    · simpa using hpast
    · simpa [hserve.globalFrameTimes_eq, Int.add_one_le_iff] using hroom
    · convert hserve.clientWindows hidle ((h.windows hidle).mono hle) using 1
      funext x
      split
      · simp only [State.admittedTimes, recordAt]
        cases frame.clientInstanceId <;> simp [List.filter_cons, apply_ite]
      · rfl

theorem Limited.of_reachable (h : (hostSystem limits policy).Reachable s) : Limited limits s :=
  h.invariant (fun _ => Limited.init) fun _ _ _ _ hi _ hs => hi.step hs

variable {scope : LimitScope} {limit : ℤ}

/-- A delay in whole milliseconds reaches at least as far as the exact one. -/
theorem retry_reaches {retryAfter : ℚ}
    (h : now + (rateLimitResponse limits scope limit retryAfter).retryAfterMs / 1000 ≤ now') :
    now + retryAfter ≤ now' := by
  have hceil := (Int.le_ceil (retryAfter * 1000)).trans
    (Int.cast_le.mpr (le_max_right 1 ⌈retryAfter * 1000⌉))
  simp only [rateLimitResponse] at h
  linarith

theorem head_of_full {times : List ℚ} (hpos : 1 ≤ limit) (hfull : limit ≤ times.length) :
    ∃ x, times.head? = some x := by
  cases times with
  | nil =>
    simp only [List.length_nil, Nat.cast_zero] at hfull
    omega
  | cons x xs => exact ⟨x, rfl⟩

theorem store_mem {id : String} (hc : host.client id = some client)
    (hid : row.clientInstanceId = client.clientInstanceId) :
    row ∈ (host.store row).acceptedClients :=
  Table.mem_overwrite_self (Table.lookup_mem hc) hid.symm

/-- A queue refused for being full has room once the delay it was refused with has passed. -/
theorem room_after_retry {times kept : List ℚ} {oldest x : ℚ} (hh : times.head? = some oldest)
    (h : now + (rateLimitResponse limits scope limit
      (retryAfterSeconds limits times now)).retryAfterMs / 1000 ≤ now') (hx : kept.head? = some x)
    (hxle : x ≤ oldest) : (discardExpiredFrameTimes limits kept now').length < kept.length := by
  have hr := retry_reaches h
  have hmax := le_max_right 0 (oldest + limits.frameWindowSeconds - now)
  simp only [retryAfterSeconds, hh] at hr
  exact discard_length_lt hx (by linarith)

/-- The frames of all clients have no part in who has become idle. -/
theorem expire_length_lt (kept : List ℚ) (hc : client ∈ host.acceptedClients)
    (hgone : client ∉ (expireIdleClients limits { host with globalFrameTimes := kept }
      now).acceptedClients) :
    (expireIdleClients limits { host with globalFrameTimes := kept }
      now).acceptedClients.length < host.acceptedClients.length :=
  List.length_filter_lt_length_iff_exists.mpr
    ⟨client, hc, fun hin => hgone (List.mem_filter.mpr ⟨hc, hin⟩)⟩

/-- Once the announced delay has passed, a client has become idle. -/
theorem expired_after_retry (h : now + (clientCapacityResponse limits host now).retryAfterMs / 1000
    ≤ now') (hne : host.acceptedClients ≠ []) (kept : List ℚ) :
    (expireIdleClients limits { host with globalFrameTimes := kept }
      now').acceptedClients.length < host.acceptedClients.length := by
  have hr := retry_reaches h
  cases hm : (host.acceptedClients.map (·.lastSeenMonotonic)).min? with
  | none => exact absurd (List.map_eq_nil_iff.mp (List.min?_eq_none_iff.mp hm)) hne
  | some m =>
    obtain ⟨c, hc, rfl⟩ := List.mem_map.mp (List.min?_mem hm)
    have hmax := le_max_right 0
      (c.lastSeenMonotonic + limits.acceptedClientIdleSeconds - now)
    simp only [hm, Option.getD_some] at hr
    refine expire_length_lt kept hc fun hin => ?_
    have hstill := (List.mem_filter.mp hin).2
    simp only [decide_eq_true_eq] at hstill
    linarith

variable {payload payload' : RateLimit} {host'' : Host} {kept : List ℚ}

/-- Of two refusals in turn, the second after the delay of the first, one is by the global limit. -/
theorem Serves.retry (hs : Serves limits now frame host (.rateLimited payload) host')
    (hb : ClientsBounded limits passed host.acceptedClients)
    (hb' : ClientsBounded limits passed host'.acceptedClients)
    (hdelay : now + payload.retryAfterMs / 1000 ≤ now')
    (hs' : Serves limits now' frame { host' with globalFrameTimes := kept }
      (.rateLimited payload') host'') :
    False := by
  cases hs with
  | full hid hnone hfull =>
    cases hs' with
    | full _ _ hfull' =>
      have hpos := limits.bounds.1
      have hne : (expireIdleClients limits host now).acceptedClients ≠ [] := fun hnil => by
        simp only [hnil, List.length_nil, Nat.cast_zero] at hfull
        omega
      have hlt := expired_after_retry hdelay hne kept
      have hle : ((expireIdleClients limits host now).acceptedClients.length : ℤ) ≤
          limits.maxAcceptedClients := hb.expire.count_le
      omega
    | clientLimited hid' hc' =>
      obtain rfl := Option.some.inj (hid.symm.trans hid')
      exact Table.lookup_none_iff.mp hnone _ (List.mem_of_mem_filter (Table.lookup_mem hc'))
        (Table.lookup_key hc')
  | @clientLimited id client hid hc hfull =>
    obtain rfl := Table.lookup_key hc
    have hmem := store_mem hc (rfl : { client with
      frameTimes := discardExpiredFrameTimes limits client.frameTimes now }.clientInstanceId = _)
    have hle := hb'.count_le
    cases hs' with
    | full hid' hnone' hfull' =>
      -- The client itself has become idle and left its place.
      obtain rfl := Option.some.inj (hid.symm.trans hid')
      have hlt := expire_length_lt kept hmem fun hin =>
        Table.lookup_none_iff.mp hnone' _ hin rfl
      omega
    | @clientLimited id' client' hid' hc' hfull' =>
      obtain rfl := Option.some.inj (hid.symm.trans hid')
      obtain rfl : client' = _ := Table.key_injOn hb'.unique
        (List.mem_of_mem_filter (Table.lookup_mem hc')) hmem (Table.lookup_key hc')
      have hpos := limits.bounds.2.2.1
      obtain ⟨x, hx⟩ := head_of_full hpos hfull
      have hlt := room_after_retry hx hdelay hx le_rfl
      have hlen := hb'.frames_le _ hmem
      simp only at hlen hfull'
      omega

/-- The frame that fills a client's queue is also in the global one. -/
theorem Limited.retry_passes_global (h : Limited limits s) (hle : s.last ≤ now)
    (hroom : (discardExpiredFrameTimes limits s.host.globalFrameTimes now).length <
      limits.maxGlobalFramesPerWindow) (hs : Serves limits now frame
      { s.host with globalFrameTimes :=
          discardExpiredFrameTimes limits s.host.globalFrameTimes now ++ [now] }
      (.rateLimited payload) host')
    (hscope : payload.limitScope = .clientFrames)
    (hdelay : now + payload.retryAfterMs / 1000 ≤ now') :
    (discardExpiredFrameTimes limits host'.globalFrameTimes now').length <
      limits.maxGlobalFramesPerWindow := by
  cases hs with
  | full => cases hscope
  | @clientLimited id client hid hc hfull =>
    have hpos := limits.bounds.2.2.1
    obtain ⟨x, hx⟩ := head_of_full hpos hfull
    have hpassed := h.clients.frames_passed client
      (List.mem_of_mem_filter (Table.lookup_mem hc)) x
      (mem_of_discard (List.mem_of_mem_head? hx))
    have htr := (h.tracks.mono hle).discard
    have hglobal := htr.mem hpassed (discard_head hx)
    obtain ⟨old, hold, -⟩ := htr
    have hsorted : (discard (now - limits.frameWindowSeconds)
        s.host.globalFrameTimes).Pairwise (· ≤ ·) :=
      List.pairwise_reverse.mp (List.pairwise_append.mp (hold ▸ h.sorted)).1
    obtain ⟨g, rest, hg⟩ := List.exists_cons_of_ne_nil (List.ne_nil_of_mem hglobal)
    have hgx : g ≤ x := by
      rw [hg] at hglobal hsorted
      rcases List.mem_cons.mp hglobal with rfl | hx
      · exact le_rfl
      · exact List.rel_of_pairwise_cons hsorted hx
    have hfront : (discardExpiredFrameTimes limits s.host.globalFrameTimes now ++
        [now]).head? = some g := by
      simp only [discardExpiredFrameTimes, hg, List.cons_append, List.head?_cons]
    have hlt := room_after_retry hx hdelay hfront hgx
    simp only [List.length_append, List.length_singleton] at hlt
    change ((discardExpiredFrameTimes limits (_ ++ [now]) now').length : ℤ) < _
    omega

/-- After the delay of a refusal the same frame is refused by no limit if the client's own limit
refused it, at most by the global one if there was no place, and else not by the global one. -/
theorem Limited.retry (h : Limited limits s) (hle : s.last ≤ now)
    (hfirst : handle limits policy s.host now frame = (.rateLimited payload, host'))
    (hdelay : now + payload.retryAfterMs / 1000 ≤ now')
    (hsecond : (handle limits policy host' now' frame).1 = .rateLimited payload') :
    payload.limitScope ≠ .clientFrames ∧
      (payload'.limitScope = .globalFrames ↔ payload.limitScope = .acceptedClients) := by
  obtain ⟨hfull, heq⟩ | ⟨hroom, hserve⟩ := handle_cases limits policy s.host now frame <;>
    obtain ⟨hfull', heq'⟩ | ⟨hroom', hserve'⟩ := handle_cases limits policy host' now' frame
  · obtain ⟨hp, rfl⟩ := Prod.mk.inj (hfirst.symm.trans heq)
    cases hp
    obtain ⟨x, hx⟩ := head_of_full limits.bounds.2.1 hfull
    have hlt := room_after_retry hx hdelay hx le_rfl
    have hpruned : (discardExpiredFrameTimes limits s.host.globalFrameTimes now).length ≤
        s.host.globalFrameTimes.length := discard_length_le
    have hle := h.global_le
    simp only at hfull'
    omega
  · obtain ⟨hp, -⟩ := Prod.mk.inj (hfirst.symm.trans heq)
    cases hp
    rw [hsecond] at hserve'
    simpa [rateLimitResponse] using of_decide_eq_true hserve'.passedGlobalLimit
  · rw [heq'] at hsecond
    cases hsecond
    rw [hfirst] at hserve
    dsimp only at hserve
    have hclient : payload.limitScope ≠ .clientFrames := fun hscope => by
      have hpasses := h.retry_passes_global hle hroom hserve hscope hdelay
      omega
    have hglobal : payload.limitScope ≠ .globalFrames :=
      of_decide_eq_true hserve.passedGlobalLimit
    cases hscope : payload.limitScope <;> simp_all [rateLimitResponse]
  · rw [hfirst] at hserve
    rw [hsecond] at hserve'
    have hb := h.clients.mono (List.subset_cons_self now _)
    exact (hserve.retry hb (hserve.clientsBounded hb List.mem_cons_self) hdelay hserve').elim

end

section

/-- How many of the times fall into the window of `length` seconds from `start` on. -/
def framesWithin (times : List ℚ) (start length : ℚ) : ℕ :=
  times.countP fun t => start ≤ t ∧ t < start + length

/-- `frame` is refused by a rate limit at `now` and, the next frame of all, again at `now'`, when
the announced delay has passed. -/
structure RefusedTwice (limits : IpcResourceLimits) (policy : ClientAuthorizationPolicy)
    (s : State) (now now' : ℚ) (frame : Frame) (payload payload' : RateLimit) : Prop where
  arrives : s.last ≤ now
  first : (handle limits policy s.host now frame).1 = .rateLimited payload
  delay : now + payload.retryAfterMs / 1000 ≤ now'
  second : (handle limits policy (handle limits policy s.host now frame).2 now' frame).1 =
    .rateLimited payload'

/-- The accepted clients and the frames of every window stay within their limits, and a client that
waits as it was told is refused again only under another limit. -/
theorem rate_limits (limits : IpcResourceLimits) (policy : ClientAuthorizationPolicy) (s : State)
    (h : (hostSystem limits policy).Reachable s) :
    s.host.acceptedClients.length ≤ limits.maxAcceptedClients ∧
      (∀ start, framesWithin s.passed start limits.frameWindowSeconds ≤
        limits.maxGlobalFramesPerWindow) ∧
      (limits.frameWindowSeconds ≤ limits.acceptedClientIdleSeconds →
        ∀ clientInstanceId start,
          framesWithin (s.admittedTimes clientInstanceId) start limits.frameWindowSeconds ≤
            limits.maxClientFramesPerWindow) ∧
      ∀ now now' frame payload payload',
        RefusedTwice limits policy s now now' frame payload payload' →
          payload.limitScope ≠ .clientFrames ∧
            (payload'.limitScope = .globalFrames ↔ payload.limitScope = .acceptedClients) := by
  have hl := Limited.of_reachable h
  obtain ⟨-, hglobal, hclient, -⟩ := limits.bounds
  refine ⟨hl.clients.count_le, fun start => ?_, fun hidle id start => ?_, ?_⟩
  · exact hl.spread.half_open (by omega) start
  · exact ((hl.windows hidle).spread id).half_open (by omega) start
  · intro now now' frame payload payload' hr
    exact hl.retry hr.arrives (Prod.ext hr.first rfl) hr.delay hr.second

def sampleIdentity : VerifiedClientIdentity := ⟨"user", 1, false, "named-pipe"⟩

def samplePolicy : ClientAuthorizationPolicy where
  expectedUserSidHash := "user"
  expectedSessionId := 1

def sampleHandshake (clientInstanceId : String) : Frame :=
  .handshake (some ⟨1, 2, .gui, clientInstanceId⟩) sampleIdentity

/-- The state after handshakes, on a host that begins at time 0. -/
def sampleRun (limits : IpcResourceLimits) (handshakes : List (ℚ × String)) : Option State :=
  (hostSystem limits samplePolicy).replay ⟨⟨[], []⟩, 0, [], []⟩
    (handshakes.map fun l => (l.1, sampleHandshake l.2))

theorem sampleRun_reachable {limits : IpcResourceLimits} {handshakes : List (ℚ × String)}
    (h : (sampleRun limits handshakes).isSome) :
    (hostSystem limits samplePolicy).Reachable ((sampleRun limits handshakes).get h) :=
  System.Reachable.replay (.init ⟨rfl, rfl, rfl⟩) _ (Option.some_get h).symm

def forgetful : IpcResourceLimits where
  acceptedClientIdleSeconds := 1 / 10
  maxClientFramesPerWindow := 1
  accepted := by decide +kernel

def narrow : IpcResourceLimits where
  maxAcceptedClients := 2
  acceptedClientIdleSeconds := 2
  maxGlobalFramesPerWindow := 2
  maxClientFramesPerWindow := 1
  accepted := by decide +kernel

/-- After 0.5 s two clients have filled the host, the global window and their own. -/
def narrowState : State := (sampleRun narrow [(0, "b"), (1 / 2, "a")]).get (by decide +kernel)

theorem narrowState_reachable : (hostSystem narrow samplePolicy).Reachable narrowState :=
  sampleRun_reachable (by decide +kernel)

theorem rate_limits_narrow :
    narrowState.host.acceptedClients.length ≤ narrow.maxAcceptedClients ∧
      framesWithin (narrowState.admittedTimes "a") 0 1 ≤ narrow.maxClientFramesPerWindow ∧
      LimitScope.globalFrames ≠ .clientFrames :=
  have h := rate_limits narrow samplePolicy narrowState narrowState_reachable
  ⟨h.1, h.2.2.1 (by decide +kernel) "a" 0,
    (h.2.2.2 (9 / 10) 1 (sampleHandshake "a") ⟨.globalFrames, 2, 1000, 100⟩
      ⟨.clientFrames, 1, 1000, 500⟩
      ⟨by decide +kernel, by decide +kernel, by norm_num, by decide +kernel⟩).1⟩

/-- A client that is forgotten within its window starts a new one. -/
theorem rate_limits_counterexample :
    (∃ s, (hostSystem forgetful samplePolicy).Reachable s ∧
      forgetful.maxClientFramesPerWindow <
        framesWithin (s.admittedTimes "a") 0 forgetful.frameWindowSeconds) ∧
    RefusedTwice narrow samplePolicy narrowState (9 / 10) 1 (sampleHandshake "a")
      ⟨.globalFrames, 2, 1000, 100⟩ ⟨.clientFrames, 1, 1000, 500⟩ ∧
    (hostSystem narrow samplePolicy).Reachable narrowState ∧
    ∃ s, (hostSystem narrow samplePolicy).Reachable s ∧
      RefusedTwice narrow samplePolicy s (19 / 10) 2 (sampleHandshake "c")
        ⟨.acceptedClients, 2, 2000, 100⟩ ⟨.globalFrames, 2, 1000, 800⟩ := by
  refine ⟨⟨_, @sampleRun_reachable forgetful [(0, "a"), (1 / 5, "a")] (by decide +kernel),
    by decide +kernel⟩, ?_, narrowState_reachable,
    _, @sampleRun_reachable narrow [(0, "b"), (1 / 2, "a"), (9 / 5, "c")] (by decide +kernel), ?_⟩
  · exact ⟨by decide +kernel, by decide +kernel, by norm_num, by decide +kernel⟩
  · exact ⟨by decide +kernel, by decide +kernel, by norm_num, by decide +kernel⟩

end

end MediaSync.Ipc
