import InitPad.Accounts.Links

/-!
# InitPad.Accounts.LinkUse

Links over whole runs: nobody takes effect twice, older links of the same purpose are unusable once
a newer one is issued, and a link that is marked used has had its effect when no process stops, and
no statement fails, behind its claim.
-/

namespace InitPad.Accounts

open Interleave Store

variable {β : Type}

/-! ## Rows -/

structure SameLink (row row' : AuthTokenRow) : Prop where
  id : row'.id = row.id
  userId : row'.userId = row.userId
  kind : row'.kind = row.kind
  used : row.usedAt.isSome → row'.usedAt.isSome

theorem SameLink.refl (row : AuthTokenRow) : SameLink row row := ⟨rfl, rfl, rfl, fun h => h⟩

theorem SameLink.trans {a b c : AuthTokenRow} (h : SameLink a b) (h' : SameLink b c) :
    SameLink a c where
  id := h'.id.trans h.id
  userId := h'.userId.trans h.userId
  kind := h'.kind.trans h.kind
  used hused := h'.used (h.used hused)

theorem sameLink_used (now : Time) (row : AuthTokenRow) : SameLink row (row.used now) :=
  ⟨rfl, rfl, rfl, fun _ => rfl⟩

/-- The link is stored with a used row, or not at all. -/
def Spent (a : Id) (w : World) : Prop :=
  a < w.drawn ∧ ∀ row ∈ w.authTokens.rows, row.id = a → row.usedAt.isSome

structure LinksStored (w : World) : Prop where
  unique : w.authTokens.Unique
  ids : ∀ row ∈ w.authTokens.rows, row.id < w.drawn
  users : ∀ row ∈ w.authTokens.rows, (w.users.find? row.userId).isSome

namespace Effect

variable {e : Stmt β} {w w' : World}

theorem drawn_le (h : Effect e w w') : w.drawn ≤ w'.drawn := by
  cases h <;> first | exact Nat.le_refl _ | exact Nat.le_add_right _ _

theorem links (h : Effect e w w') :
    w.authTokens.Descends SameLink (fun row => row.id = w.drawn ∧ w.drawn < w'.drawn ∧
      row.usedAt = none ∧ (w.users.find? row.userId).isSome) w'.authTokens ∧
      w.authTokens.Survives SameLink w'.authTokens := by
  cases h with
  | issuedLink expiresAt _ huser =>
    refine ⟨.insert (Table.descends_updateMany .refl fun row _ _ => sameLink_used _ row) ?_,
      .insert (Table.survives_updateMany .refl fun row _ _ => sameLink_used _ row) _⟩
    exact ⟨rfl, Nat.lt_succ_self _, rfl, huser⟩
  | claimedLink =>
    exact ⟨Table.descends_updateMany .refl fun row _ _ => sameLink_used _ row,
      Table.survives_updateMany .refl fun row _ _ => sameLink_used _ row⟩
  | _ => exact ⟨Table.descends_refl .refl, Table.survives_refl .refl⟩

theorem findUser (h : Effect e w w') {id : Id} (hsome : (w.users.find? id).isSome) :
    (w'.users.find? id).isSome := by
  cases h with
  | @createdUser data row =>
    obtain ⟨user, huser⟩ := Option.isSome_iff_exists.mp hsome
    have hfind : (w.users.insert row).find? id = some user := Table.find?_insert_of_some huser
    simp only [hfind, Option.isSome_some]
  | @rewroteUsers p change hrewrites =>
    have hkey : ∀ row, key (change row) = key row := by
      intro row
      cases e with
      | replacePassword | verifyEmail | clearAccessToken | signOutEverywhere =>
        cases hrewrites
        rfl
      | _ => cases hrewrites
    simp only [Table.find?_updateMany _ _ hkey, Option.isSome_map, hsome]
  | _ => exact hsome

theorem uniqueLinks (h : Effect e w w') (hw : LinksStored w) : w'.authTokens.Unique := by
  have hused : ∀ p now, (w.authTokens.updateMany p (AuthTokenRow.used now)).Unique :=
    fun p now => hw.unique.updateMany p fun _ => rfl
  cases h with
  | @issuedLink userId kind expiresAt =>
    refine (hused _ _).insert fun hmem => ?_
    have hkeys : (w.authTokens.updateMany (AuthTokenRow.superseded userId kind)
        (AuthTokenRow.used w.now)).keys = w.authTokens.keys :=
      Table.keys_updateMany _ _ fun _ => rfl
    rw [hkeys] at hmem
    obtain ⟨row, hrow, hid⟩ := List.mem_map.mp hmem
    exact absurd hid (Nat.ne_of_lt (hw.ids row hrow))
  | claimedLink => exact hused _ _
  | _ => exact hw.unique

theorem linksStored (h : Effect e w w') (hw : LinksStored w) : LinksStored w' := by
  have hrows := h.links.1
  constructor
  case unique => exact h.uniqueLinks hw
  case ids =>
    refine hrows.forall (P := fun row => row.id < w'.drawn) (fun row hrow => ?_) ?_ ?_
    · exact Nat.lt_of_lt_of_le (hw.ids row hrow) h.drawn_le
    · intro row row' hlt hsame
      rw [hsame.id]
      exact hlt
    · rintro row ⟨hid, hlt, -⟩
      rw [hid]
      exact hlt
  case users =>
    refine hrows.forall (P := fun row => (w'.users.find? row.userId).isSome)
      (fun row hrow => h.findUser (hw.users row hrow)) ?_ ?_
    · intro row row' hsome hsame
      rw [hsame.userId]
      exact hsome
    · rintro row ⟨-, -, -, huser⟩
      exact h.findUser huser

theorem spent (h : Effect e w w') {a : Id} (hspent : Spent a w) : Spent a w' := by
  refine ⟨Nat.lt_of_lt_of_le hspent.1 h.drawn_le, fun row' hrow' hid => ?_⟩
  rcases h.links.1 row' hrow' with ⟨row, hrow, hsame⟩ | ⟨hnew, -⟩
  · exact hsame.used (hspent.2 row hrow (hsame.id.symm.trans hid))
  · exact absurd (hid.symm.trans hnew) (Nat.ne_of_lt hspent.1)

end Effect

theorem settles_of_claimsLink {e : Stmt β} {a : Id} (h : e.claimsLink.any (·.1 = a) = true) :
    e.settles = true := by
  cases e with
  | claimAuthToken => rfl
  | _ => cases h

theorem settles_of_applies {e : Stmt β} (h : e.applies.isSome = true) : e.settles = true := by
  cases e with
  | verifyEmail => rfl
  | replacePassword => exact h
  | _ => cases h

theorem claim_rows {w : World} (hw : LinksStored w) (a : Id) (kind : MailKind) (now : Time) :
    (w.authTokens.count (AuthTokenRow.claimable a kind now) = 1 ∧ ∃ row ∈ w.authTokens.rows,
        row.id = a ∧ row.usedAt = none ∧ row.used now ∈
          (w.authTokens.updateMany (AuthTokenRow.claimable a kind now) (.used now)).rows) ∨
      w.authTokens.count (AuthTokenRow.claimable a kind now) = 0 ∧
        w.authTokens.updateMany (AuthTokenRow.claimable a kind now) (.used now) = w.authTokens := by
  have hcount : w.authTokens.count (AuthTokenRow.claimable a kind now) =
      ((w.authTokens.find? a).any (AuthTokenRow.claimable a kind now)).toNat := by
    refine hw.unique.count_of_key fun row hmatch => ?_
    simp only [AuthTokenRow.claimable, Bool.and_eq_true, decide_eq_true_eq] at hmatch
    exact hmatch.1.1.1
  cases hany : (w.authTokens.find? a).any (AuthTokenRow.claimable a kind now) with
  | false =>
    rw [hany] at hcount
    refine .inr ⟨hcount, Table.updateMany_of_none fun row hrow => ?_⟩
    have hzero := (Table.count_eq_zero_iff _ _).mp hcount row hrow
    simpa using hzero
  | true =>
    rw [hany] at hcount
    obtain ⟨row, hfind, hmatch⟩ := (Option.any_eq_true _ _).mp hany
    have hrow := Table.mem_of_find? hfind
    have hmem := Table.mem_of_updateMany (p := AuthTokenRow.claimable a kind now)
      (d := AuthTokenRow.used now) hrow
    rw [if_pos hmatch] at hmem
    simp only [AuthTokenRow.claimable, Bool.and_eq_true, decide_eq_true_eq,
      Option.isNone_iff_eq_none] at hmatch
    exact .inl ⟨hcount, row, hrow, hmatch.1.1.1, hmatch.1.2, hmem⟩

theorem LinksStored.tick {w : World} (hw : LinksStored w) (n : Nat) : LinksStored (w.tick n) :=
  ⟨hw.unique, hw.ids, hw.users⟩

theorem spent_of_used {w : World} (hw : LinksStored w) {row : AuthTokenRow}
    (hrow : row ∈ w.authTokens.rows) (hused : row.usedAt.isSome) : Spent row.id w := by
  refine ⟨hw.ids row hrow, fun row' hrow' hid => ?_⟩
  rw [hw.unique.eq_of_key hrow' hrow hid]
  exact hused

/-! ## Steps -/

section

variable [Installation]

def Claims (x : AccountStep) (a : Id) : Prop := x.stmt.claimed x.result = some a

/-- The claim of the link `a`, whatever its caller is told. -/
def MarksUsed (x : AccountStep) (a : Id) : Prop :=
  x.stmt.claimsLink.any (·.1 = a) ∧
    (∃ row ∈ x.pre.state.authTokens.rows, row.id = a ∧ row.usedAt = none) ∧
    ∃ row ∈ x.post.state.authTokens.rows, row.id = a ∧ row.usedAt.isSome

/-- A link for this purpose is stored. -/
def Issues (x : AccountStep) (userId : Id) (kind : MailKind) : Prop :=
  ∃ row ∈ x.post.state.authTokens.rows, row.id ∉ x.pre.state.authTokens.keys ∧
    row.userId = userId ∧ row.kind = kind

/-- The request that has claimed the link `a` updates its account as the link says. -/
def TakesEffect (x : AccountStep) (a : Id) : Prop :=
  Claimed a (own x.thread x.pre.history) ∧
    ∃ link ∈ x.pre.state.authTokens.rows, link.id = a ∧
      ∃ change row, x.stmt.applies = some (link.kind, link.userId, change) ∧
        x.pre.state.users.find? link.userId = some row ∧
        x.post.state.users.find? link.userId = some (change row)

structure LinkProtocol (tr : List AccountStep) : Prop where
  once : tr.Pairwise fun x y => ∀ a, TakesEffect x a → ¬ TakesEffect y a
  superseded : tr.Pairwise fun x y => ∀ row ∈ x.pre.state.authTokens.rows,
    Issues x row.userId row.kind → ¬ Claims y row.id
  effective : ∀ x ∈ tr, ∀ a, MarksUsed x a → ∃ y ∈ tr, TakesEffect y a

/-- No statement from the claim of a link to its effect fails, and a process that has claimed a
link goes on to the end of its request. -/
structure Completed (tr : List AccountStep) (c : AccountSystem) : Prop where
  reliable : ∀ x ∈ tr, x.stmt.settles = true → x.stmt.fault x.input = none
  returned : ∀ t p, c.threads[t]? = some p → (∃ a, Claimed a (own t c.moment.history)) →
    p.returned = true

/-- What every moment of a run knows about links. -/
structure LinkInvariant (m : AccountMoment) : Prop where
  stored : LinksStored m.state
  found : ∀ record, Found record m.history → ∃ row ∈ m.state.authTokens.rows, SameLink record row
  spent : ∀ a, Claimed a m.history → Spent a m.state
  claimants : ∀ ev ∈ m.history, ∀ ev' ∈ m.history, ∀ a, ev.stmt.claimed ev.result = some a →
    ev'.stmt.claimed ev'.result = some a → ev.thread = ev'.thread

/-- A claim that succeeds marks its link, and a claim that marks its link succeeds unless it fails
on the way back. -/
theorem claims_iff {x : AccountStep} {a : Id} (hw : LinksStored x.pre.state) :
    (Claims x a → MarksUsed x a) ∧
      (MarksUsed x a → x.stmt.fault x.input = none → Claims x a) := by
  obtain ⟨m, t, e, i⟩ := x
  cases e with
  | claimAuthToken id kind now =>
    have hrows := claim_rows (hw.tick i.elapsed) id kind now
    constructor
    · intro h
      obtain ⟨hone, rfl⟩ := claimed_iff.1 h
      obtain ⟨hcount, hstate⟩ := Prod.mk.inj (Except.ok.inj (execute_ok hone))
      have htable := congrArg World.authTokens hstate
      rcases hrows with ⟨-, row, hrow, hid, hnone, hmem⟩ | ⟨hzero, -⟩
      · refine ⟨by simp [Stmt.claimsLink], ⟨row, hrow, hid, hnone⟩, row.used now, ?_, hid, rfl⟩
        exact htable ▸ hmem
      · rw [hzero] at hcount
        cases hcount
    · rintro ⟨hid, ⟨row, hrow, hrowid, hunused⟩, row', hrow', hrowid', hused⟩ hfault
      have hid : id = a := by simpa [Stmt.claimsLink] using hid
      have hfault : i.fault = none := hfault
      have hexec : exec (Stmt.claimAuthToken id kind now) i m.state =
          commit ((Stmt.claimAuthToken id kind now).run settings i (m.state.tick i.elapsed))
            (m.state.tick i.elapsed) := by
        simp only [exec, Stmt.fault, hfault, execute_of_none]
      rcases hrows with ⟨hone, -⟩ | ⟨-, hsame⟩
      · refine claimed_iff.2 ⟨?_, hid⟩
        simp only [Transition.result, hexec]
        exact congrArg Except.ok hone
      · have hpost : (Transition.post ⟨m, t, .claimAuthToken id kind now, i⟩).state.authTokens =
            m.state.authTokens := by
          simp only [Transition.post, Moment.next_state, hexec]
          exact hsame
        rw [hpost] at hrow'
        have heq := hw.unique.eq_of_key hrow hrow' (hrowid.trans hrowid'.symm)
        rw [← heq, hunused] at hused
        cases hused
  | _ => exact ⟨fun h => (by cases h), fun h => (by cases h.1)⟩

theorem mem_of_foundLink {x : AccountStep} {record : AuthTokenRow}
    (h : x.stmt.foundLink x.result = some record) :
    record ∈ x.pre.state.authTokens.rows := by
  obtain ⟨m, t, e, i⟩ := x
  cases e with
  | findAuthToken hash =>
    have hresult : (exec (Stmt.findAuthToken hash) i m.state).1 = .ok (some record) := by
      simp only [Stmt.foundLink] at h
      split at h
      · rename_i hr
        cases h
        exact hr
      · cases h
    have hfind := (Prod.mk.inj (Except.ok.inj (execute_ok hresult))).1
    exact List.mem_of_find?_eq_some hfind
  | _ => cases h

theorem linkInvariant_post {x : AccountStep} (h : LinkInvariant x.pre) :
    LinkInvariant x.post := by
  have heffect := post_effect x
  have hstored := heffect.linksStored (h.stored.tick _)
  have hnew : ∀ a, Claims x a → MarksUsed x a := fun a => (claims_iff h.stored).1
  constructor
  case stored => exact hstored
  case found =>
    rintro record ⟨ev, hev, hrecord⟩
    have hbefore : ∃ row ∈ x.pre.state.authTokens.rows, SameLink record row := by
      rcases List.mem_append.mp hev with hold | hold
      · exact h.found record ⟨ev, hold, hrecord⟩
      · obtain rfl := List.mem_singleton.mp hold
        exact ⟨record, mem_of_foundLink hrecord, .refl record⟩
    obtain ⟨row, hrow, hsame⟩ := hbefore
    obtain ⟨row', hrow', hsame'⟩ := heffect.links.2 row hrow
    exact ⟨row', hrow', hsame.trans hsame'⟩
  case spent =>
    intro a hclaimed
    rcases claimed_append.1 hclaimed with hclaimed | hclaimed
    · exact heffect.spent (h.spent a hclaimed)
    · obtain ⟨-, -, row, hrow, rfl, hused⟩ := hnew a hclaimed
      exact spent_of_used hstored hrow hused
  case claimants =>
    have hlast : ∀ a, Claims x a → ¬ Claimed a x.pre.history := by
      intro a hclaims hclaimed
      obtain ⟨-, ⟨row, hrow, hid, hnone⟩, -⟩ := hnew a hclaims
      have hused := (h.spent a hclaimed).2 row hrow hid
      rw [hnone] at hused
      cases hused
    intro ev hev ev' hev' a hclaim hclaim'
    rcases List.mem_append.mp hev with hold | hold
    · rcases List.mem_append.mp hev' with hold' | hold'
      · exact h.claimants ev hold ev' hold' a hclaim hclaim'
      · obtain rfl := List.mem_singleton.mp hold'
        exact absurd ⟨ev, hold, hclaim⟩ (hlast a hclaim')
    · obtain rfl := List.mem_singleton.mp hold
      rcases List.mem_append.mp hev' with hold' | hold'
      · exact absurd ⟨ev', hold', hclaim'⟩ (hlast a hclaim)
      · rw [List.mem_singleton.mp hold']

theorem apply_post {x : AccountStep} {kind : MailKind} {userId : Id} {change : UserRow → UserRow}
    {row : UserRow} (happlies : x.stmt.applies = some (kind, userId, change))
    (hfault : x.stmt.fault x.input = none) (hrow : x.pre.state.users.find? userId = some row) :
    x.post.state.users.find? userId = some (change row) ∧ ∀ failure, x.result ≠ .error failure := by
  have hupdate : ∀ (w : World) (change : UserRow → UserRow), w.users.find? userId = some row →
      (∀ row, key (change row) = key row) → w.updateUser userId change =
        .ok (change row, { w with users := w.users.updateMany (·.id = userId) change }) ∧
        (w.users.updateMany (·.id = userId) change).find? userId = some (change row) := by
    intro w change hrow hkey
    have hid : row.id = userId := Table.find?_key hrow
    constructor
    · simp only [World.updateUser, hrow]
    · rw [Table.find?_updateMany _ _ hkey, hrow]
      simp [hid]
  obtain ⟨m, t, e, i⟩ := x
  have hfault : e.fault i = none := hfault
  have hrow : (m.state.tick i.elapsed).users.find? userId = some row := hrow
  simp only [Transition.post, Transition.result, Moment.next_state, exec, hfault, execute_of_none]
  cases e with
  | verifyEmail id now =>
    cases happlies
    obtain ⟨hok, hfind⟩ := hupdate (m.state.tick i.elapsed) (.verified now) hrow fun _ => rfl
    simp only [Stmt.run, hok, Except.map, commit, hfind]
    exact ⟨trivial, fun _ h => by cases h⟩
  | replacePassword id passwordHash action =>
    have hchange : id = userId ∧ change = .withPassword passwordHash := by
      cases action <;> cases happlies <;> exact ⟨rfl, rfl⟩
    obtain ⟨rfl, rfl⟩ := hchange
    obtain ⟨hok, hfind⟩ := hupdate (m.state.tick i.elapsed) (.withPassword passwordHash) hrow
      fun _ => rfl
    simp only [Stmt.run, hok, commit, hfind]
    exact ⟨trivial, fun _ h => by cases h⟩
  | _ => cases happlies

theorem issues_spent {x : AccountStep} {row : AuthTokenRow} (hw : LinksStored x.pre.state)
    (hrow : row ∈ x.pre.state.authTokens.rows) (hissues : Issues x row.userId row.kind) :
    Spent row.id x.post.state := by
  have heffect := post_effect x
  have hstored := heffect.linksStored (hw.tick _)
  obtain ⟨new, hnew, hkey, huser, hkind⟩ := hissues
  have hunknown : new ∉ x.pre.state.authTokens.rows := fun hmem =>
    hkey (List.mem_map_of_mem hmem)
  have hsame : ∀ row' ∈ x.pre.state.authTokens.rows, row'.id ≠ new.id := fun row' hmem hid =>
    hkey (hid ▸ List.mem_map_of_mem hmem)
  generalize x.post.state = w' at heffect hstored hnew ⊢
  cases heffect with
  | @issuedLink userId kind expiresAt =>
    rcases Table.mem_insert.mp hnew with hnew | rfl
    · obtain ⟨old, hold, rfl⟩ := Table.mem_updateMany.mp hnew
      refine absurd ?_ (hsame old hold)
      split
      · rfl
      · rfl
    · have hmem := Table.mem_of_updateMany (p := AuthTokenRow.superseded userId kind)
        (d := AuthTokenRow.used (x.pre.state.tick x.input.elapsed).now) hrow
      have huser : row.userId = userId := huser.symm
      have hkind : row.kind = kind := hkind.symm
      cases hused : row.usedAt with
      | none =>
        have hmatch : AuthTokenRow.superseded userId kind row = true := by
          simp [AuthTokenRow.superseded, huser, hkind, hused]
        rw [if_pos hmatch] at hmem
        have hspent := spent_of_used hstored (Table.mem_insert.mpr (.inl hmem)) rfl
        exact hspent
      | some at' =>
        have hmatch : ¬ AuthTokenRow.superseded userId kind row = true := by
          simp [AuthTokenRow.superseded, hused]
        rw [if_neg hmatch] at hmem
        exact spent_of_used hstored (Table.mem_insert.mpr (.inl hmem)) (by rw [hused]; rfl)
  | @claimedLink id kind now =>
    obtain ⟨old, hold, rfl⟩ := Table.mem_updateMany.mp hnew
    refine absurd ?_ (hsame old hold)
    split
    · rfl
    · rfl
  | _ => exact absurd hnew hunknown

/-! ## Runs -/

section Runs

variable {w : World} {tr : List AccountStep} {c : AccountSystem}

omit [Installation] in
theorem linkInvariant_start (hw : LinksStored w) : LinkInvariant (Config.start w).moment where
  stored := hw
  found _ hfound := by
    obtain ⟨ev, hev, -⟩ := hfound
    cases hev
  spent _ hclaimed := by
    obtain ⟨ev, hev, -⟩ := hclaimed
    cases hev
  claimants ev hev := by cases hev

theorem linkInvariant_run (hw : LinksStored w) (hrun : Run LinkCalls (Config.start w) tr c) :
    ∀ x ∈ tr, LinkInvariant x.pre :=
  Run.preserves_pre LinkInvariant (fun _ => True) (fun _ _ h => linkInvariant_post h) hrun
    (fun _ _ => trivial) (linkInvariant_start hw)

theorem linkRule_run (hrun : Run LinkCalls (Config.start w) tr c) :
    (∀ t p, c.threads[t]? = some p → Obeys (fun _ => Settled) t p (own t c.moment.history)) ∧
      ∀ x ∈ tr, LinkRule x.stmt (own x.thread x.pre.history) :=
  Run.meets (fun _ _ _ hp => obeys_linkCall hp) hrun fun _ _ => trivial

theorem links_once (hw : LinksStored w) (hrun : Run LinkCalls (Config.start w) tr c) :
    tr.Pairwise fun x y => ∀ a, TakesEffect x a → ¬ TakesEffect y a := by
  refine hrun.history_prefix.1.imp_of_mem fun {x y} hx hy hbefore a hex hey => ?_
  obtain ⟨⟨ev, hev, hclaim⟩, link, -, -, change, row, happlies, -⟩ := hex
  obtain ⟨⟨ev', hev', hclaim'⟩, link', -, -, change', row', happlies', -⟩ := hey
  obtain ⟨hev, hthread⟩ := List.mem_filter.mp hev
  obtain ⟨hev', hthread'⟩ := List.mem_filter.mp hev'
  have hevy : ev ∈ y.pre.history :=
    hbefore.subset (List.mem_append_left _ hev)
  have hsame := (linkInvariant_run hw hrun y hy).claimants ev hevy ev' hev' a hclaim hclaim'
  have hthreads : x.thread = y.thread :=
    (of_decide_eq_true hthread).symm.trans (hsame.trans (of_decide_eq_true hthread'))
  obtain ⟨record, hheld, -⟩ := ((linkRule_run hrun).2 y hy).applies _ _ _ happlies'
  refine hheld.applied ⟨x.event, List.mem_filter.mpr ⟨?_, ?_⟩, ?_⟩
  · exact hbefore.subset (List.mem_append_right _ (List.mem_singleton.mpr rfl))
  · exact decide_eq_true hthreads
  · have hsome : x.stmt.applies.isSome := by rw [happlies]; rfl
    exact hsome

theorem links_superseded (hw : LinksStored w) (hrun : Run LinkCalls (Config.start w) tr c) :
    tr.Pairwise fun x y => ∀ row ∈ x.pre.state.authTokens.rows,
      Issues x row.userId row.kind → ¬ Claims y row.id := by
  have hinv := linkInvariant_run hw hrun
  obtain ⟨hpairs, -⟩ := Run.pairwise
    (fun (x : AccountStep) (m : AccountMoment) => ∀ row ∈ x.pre.state.authTokens.rows,
      Issues x row.userId row.kind → Spent row.id m.state) (fun x => LinkInvariant x.pre)
    (fun x hx row hrow hissues => issues_spent hx.stored hrow hissues)
    (fun x y hy h row hrow hissues => (post_effect y).spent (h row hrow hissues)) hrun hinv
  refine hpairs.imp_of_mem fun {x y} _ hy hspent row hrow hissues hclaims => ?_
  obtain ⟨-, ⟨row', hrow', hid, hnone⟩, -⟩ := (claims_iff (hinv y hy).stored).1 hclaims
  have hused := (hspent row hrow hissues).2 row' hrow' hid
  rw [hnone] at hused
  cases hused

omit [Installation] in
theorem held_link {x : AccountStep} {record : AuthTokenRow} (hinv : LinkInvariant x.pre)
    (hheld : Held record (own x.thread x.pre.history)) :
    ∃ link ∈ x.pre.state.authTokens.rows, SameLink record link ∧
      ∃ row, x.pre.state.users.find? link.userId = some row := by
  obtain ⟨ev, hev, hfound⟩ := hheld.found
  obtain ⟨link, hlink, hsame⟩ := hinv.found record ⟨ev, (List.mem_filter.mp hev).1, hfound⟩
  exact ⟨link, hlink, hsame, Option.isSome_iff_exists.mp (hinv.stored.users link hlink)⟩

theorem answered_run (hw : LinksStored w) (hrun : Run LinkCalls (Config.start w) tr c)
    (hcompleted : Completed tr c) : Answered c.moment.history := by
  rw [hrun.history_eq, Config.start, List.nil_append]
  intro ev hev hsettles failure
  obtain ⟨x, hx, rfl⟩ := List.mem_map.mp hev
  have hfault := hcompleted.reliable x hx hsettles
  have hinv := linkInvariant_run hw hrun x hx
  have hrule := (linkRule_run hrun).2 x hx
  by_cases happlied : x.stmt.applies.isSome = true
  · obtain ⟨⟨kind, userId, change⟩, happlies⟩ := Option.isSome_iff_exists.mp happlied
    obtain ⟨record, hheld, huser, -⟩ := hrule.applies kind userId change happlies
    obtain ⟨link, -, hsame, row, hrow⟩ := held_link hinv hheld
    rw [hsame.userId, huser] at hrow
    exact (apply_post happlies hfault hrow).2 failure
  · obtain ⟨m, t, e, i⟩ := x
    have hfault : e.fault i = none := hfault
    cases e with
    | clock | claimAuthToken | hashPassword =>
      simp only [Transition.event, Transition.result, exec, hfault, execute_of_none, Stmt.run,
        commit]
      intro h
      cases h
    | _ => exact absurd hsettles happlied

theorem links_effective (hw : LinksStored w) (hrun : Run LinkCalls (Config.start w) tr c)
    (hcompleted : Completed tr c) : ∀ x ∈ tr, ∀ a, MarksUsed x a → ∃ y ∈ tr, TakesEffect y a := by
  intro x hx a hmarks
  have hinv := linkInvariant_run hw hrun
  have hevents := hrun.history_eq
  rw [Config.start, List.nil_append] at hevents
  have hclaims : Claims x a := by
    refine (claims_iff (hinv x hx).stored).2 hmarks (hcompleted.reliable x hx ?_)
    exact settles_of_claimsLink hmarks.1
  have hmem : x.event ∈ c.moment.history := hevents ▸ List.mem_map_of_mem hx
  have hclaimed : Claimed a (own x.thread c.moment.history) :=
    ⟨x.event, List.mem_filter.mpr ⟨hmem, decide_eq_true rfl⟩, hclaims⟩
  have hthread := hrun.history_threads x.event hmem
  obtain ⟨hmeets, hrules⟩ := linkRule_run hrun
  obtain ⟨p, hp⟩ : ∃ p, c.threads[x.thread]? = some p := ⟨_, List.getElem?_eq_getElem hthread⟩
  have hsettled : Settled (own x.thread c.moment.history) := by
    have hreturned := hcompleted.returned x.thread p hp ⟨a, hclaimed⟩
    have hobeys := hmeets x.thread p hp
    cases p with
    | ret r => exact hobeys
    | call => cases hreturned
  have hanswered : Answered (own x.thread c.moment.history) := fun ev hev =>
    answered_run hw hrun hcompleted ev (List.mem_filter.mp hev).1
  obtain ⟨⟨ev, hev, happlied⟩, honly⟩ := hsettled hanswered a hclaimed
  obtain ⟨hev, hevthread⟩ := List.mem_filter.mp hev
  rw [hevents] at hev
  obtain ⟨y, hy, rfl⟩ := List.mem_map.mp hev
  have hythread : y.thread = x.thread := of_decide_eq_true hevthread
  obtain ⟨⟨kind, userId, change⟩, happlies⟩ := Option.isSome_iff_exists.mp happlied
  obtain ⟨record, hheld, huser, hkind⟩ := (hrules y hy).applies kind userId change happlies
  have hrecord : record.id = a := by
    obtain ⟨claim, hclaim, hid⟩ := hheld.claimed
    obtain ⟨hclaim, hclaimthread⟩ := List.mem_filter.mp hclaim
    refine honly record.id ⟨claim, List.mem_filter.mpr ⟨?_, ?_⟩, hid⟩
    · exact (hrun.history_prefix.2 y hy).subset (List.mem_append_left _ hclaim)
    · rw [← hythread]
      exact hclaimthread
  obtain ⟨link, hlink, hsame, row, hrow⟩ := held_link (hinv y hy) hheld
  have hfault := hcompleted.reliable y hy (settles_of_applies happlied)
  have huserId : link.userId = userId := hsame.userId.trans huser
  rw [huserId] at hrow
  refine ⟨y, hy, hrecord ▸ hheld.claimed, link, hlink, hsame.id.trans hrecord, change, row, ?_⟩
  rw [huserId, hsame.kind, hkind]
  exact ⟨happlies, hrow, (apply_post happlies hfault hrow).1⟩

/-- In every run in which no process stops, and no statement fails, between the claim of a link and
its effect, links are used once, superseded by newer ones, and never lost. -/
theorem links_in_order (hw : LinksStored w) (hrun : Run LinkCalls (Config.start w) tr c)
    (hcompleted : Completed tr c) : LinkProtocol tr where
  once := links_once hw hrun
  superseded := links_superseded hw hrun
  effective := links_effective hw hrun hcompleted

end Runs

end

/-! ## A process that stops behind its claim -/

/-- An account with a link that verifies its e-mail address. -/
def unverified : World where
  now := 1000
  users := ⟨[{
    id := 0
    giteaId := none
    username := "ada"
    name := none
    email := some "ada@example.org"
    avatarUrl := none
    accessToken := ""
    passwordHash := none
    platformRole := .user
    active := true
    mustChangePassword := false
    tokenVersion := 0
    emailVerifiedAt := none }]⟩
  authTokens := ⟨[⟨1, 0, .emailVerify, hashToken ⟨1⟩, 5000, none⟩]⟩
  drawn := 2

theorem unverified_stored : LinksStored unverified where
  unique := by decide
  ids := by decide
  users := by decide

section

attribute [local instance] closedInstallation

def opened : ApiCall Unit := verifyEmail (some ⟨1⟩)

theorem opened_calls {m : AccountMoment} : ∀ p ∈ [opened], LinkCalls m p := by
  intro p hp
  rw [List.mem_singleton.mp hp]
  exact .verifyEmail _

/-- The link is claimed, and the address is verified. -/
theorem link_verifies : ∃ (tr : List AccountStep) (c : AccountSystem),
    Run LinkCalls (Config.start unverified) tr c ∧ LinkProtocol tr ∧
      c.moment.state.users.rows.map (·.emailVerifiedAt) = [some 1000] := by
  obtain ⟨tr, c, hrun, hcheck⟩ := run_of_plays (Config.start unverified) [opened]
    (List.replicate 6 (0, {}))
    (fun tr c => tr.all (fun x => x.stmt.fault x.input = none) && c.threads.all (·.returned) &&
      c.moment.state.users.rows.map (·.emailVerifiedAt) = [some 1000])
    opened_calls (by decide)
  simp only [Bool.and_eq_true, List.all_eq_true, decide_eq_true_eq] at hcheck
  refine ⟨tr, c, hrun, links_in_order unverified_stored hrun ⟨?_, ?_⟩, hcheck.2⟩
  · exact fun x hx _ => hcheck.1.1 x hx
  · exact fun t p hp _ => hcheck.1.2 p (List.mem_of_getElem? hp)

/-- The process stops behind the claim: the link is used, and the address is not verified. -/
theorem link_lost : ¬ ∀ (w : World) (tr : List AccountStep) (c : AccountSystem), LinksStored w →
    Run LinkCalls (Config.start w) tr c → LinkProtocol tr := by
  intro h
  obtain ⟨tr, c, hrun, hcheck⟩ := run_of_plays (Config.start unverified) [opened]
    (List.replicate 4 (0, {}))
    (fun tr _ => (tr.any fun x => x.stmt.claimsLink.any (·.1 = 1) &&
      x.pre.state.authTokens.rows.any (fun row => row.id = 1 && row.usedAt = none) &&
      x.post.state.authTokens.rows.any (fun row => row.id = 1 && row.usedAt.isSome)) &&
      tr.all fun x => x.stmt.applies.isNone)
    opened_calls (by decide)
  simp only [Bool.and_eq_true, List.any_eq_true, List.all_eq_true, decide_eq_true_eq,
    Option.isNone_iff_eq_none] at hcheck
  obtain ⟨⟨x, hx, ⟨hclaims, hunused⟩, hused⟩, hnone⟩ := hcheck
  obtain ⟨y, hy, -, link, -, -, change, row, happlies, -⟩ :=
    (h unverified tr c unverified_stored hrun).effective x hx 1 ⟨hclaims, hunused, hused⟩
  rw [hnone y hy] at happlies
  cases happlies

end

end InitPad.Accounts
