import InitPad.Admin.Writes

/-!
# InitPad.Admin.Administrators

The administrators and the flags of the accounts over whole runs. A call counts the other
administrators before two requests to Gitea and the update of its target, and nothing compares
either of them again: two administrators who deactivate each other count one administrator each.
-/

namespace InitPad.Admin

open Interleave Store
open Accounts (UserRow PlatformRole ApiInput Installation settings)

variable {β : Type}

/-! ## Steps -/

structure AccountsKept (m : AdminMoment) : Prop where
  issued : m.state.accounts.users.Issued m.state.accounts.drawn
  usernames : ∀ row ∈ m.state.accounts.users.rows, ∀ row' ∈ m.state.accounts.users.rows,
    row.username = row'.username → row = row'
  known : ∀ entry ∈ m.state.gitea, ∃ row ∈ m.state.accounts.users.rows, row.username = entry.1
  seen : ∀ ev ∈ m.history, ∀ id row, ev.stmt.finds ev.result = some (id, row) →
    ∃ row' ∈ m.state.accounts.users.rows, SameAccount row row'

section

variable [Installation] {x : AdminStep}

abbrev Ruled (x : AdminStep) : Prop := FlipRule x.stmt (own x.thread x.pre.history)

theorem post_run (x : AdminStep) : x.post.state = x.pre.state.tick x.input.elapsed ∨
    ∃ b, x.stmt.run settings x.input (x.pre.state.tick x.input.elapsed) = .ok (b, x.post.state) :=
  execute_state (x.stmt.fault x.input) _ _

theorem run_of_ok {b : x.β} (h : x.result = .ok b) :
    x.stmt.run settings x.input (x.pre.state.tick x.input.elapsed) = .ok (b, x.post.state) :=
  execute_ok h

/-- An update that is carried out, or not. -/
def MayTurn (x : AdminStep) (row row' : UserRow) : Prop :=
  SameAccount row row' ∧
    (row'.active = row.active ∨ x.stmt.updates = some (row.id, row'.active))

theorem rows_post {row' : UserRow} (hrow' : row' ∈ x.post.state.accounts.users.rows) :
    (∃ row ∈ x.pre.state.accounts.users.rows, MayTurn x row row') ∨
      NewAccount x.pre.state.accounts x.post.state.accounts row' := by
  rcases post_run x with hsame | ⟨b, hrun⟩
  · rw [hsame] at hrow'
    exact .inl ⟨row', hrow', .refl row', .inl rfl⟩
  · rcases (run_users hrun).descends row' hrow' with ⟨row, hrow, hturn⟩ | hnew
    · refine .inl ⟨row, hrow, hturn.toSameAccount, ?_⟩
      by_cases hset : ∃ active, x.stmt.updates = some (row.id, active)
      · obtain ⟨active, hset⟩ := hset
        rw [hturn.set active hset]
        exact .inr hset
      · exact .inl (hturn.kept fun active hactive => hset ⟨active, hactive⟩)
    · exact .inr ⟨hnew.id, hnew.drawn, hnew.active, hnew.username⟩

theorem survives_post {row : UserRow} (hrow : row ∈ x.pre.state.accounts.users.rows) :
    ∃ row' ∈ x.post.state.accounts.users.rows, MayTurn x row row' := by
  rcases post_run x with hsame | ⟨b, hrun⟩
  · rw [hsame]
    exact ⟨row, hrow, .refl row, .inl rfl⟩
  · obtain ⟨row', hrow', hturn⟩ := (run_users hrun).survives row hrow
    refine ⟨row', hrow', hturn.toSameAccount, ?_⟩
    by_cases hset : ∃ active, x.stmt.updates = some (row.id, active)
    · obtain ⟨active, hset⟩ := hset
      rw [hturn.set active hset]
      exact .inr hset
    · exact .inl (hturn.kept fun active hactive => hset ⟨active, hactive⟩)

theorem gitea_post (x : AdminStep) : x.post.state.gitea = x.pre.state.gitea ∨
    ∃ state, x.stmt.flips = some state ∧ x.post.state.gitea = state :: x.pre.state.gitea := by
  rcases post_run x with hsame | ⟨b, hrun⟩
  · rw [hsame]
    exact .inl rfl
  · rw [run_gitea hrun]
    cases hflips : x.stmt.flips with
    | none => exact .inl rfl
    | some state => exact .inr ⟨state, rfl, rfl⟩

theorem issued_post (h : x.pre.state.accounts.users.Issued x.pre.state.accounts.drawn) :
    x.post.state.accounts.users.Issued x.post.state.accounts.drawn := by
  rcases post_run x with hsame | ⟨b, hrun⟩
  · rw [hsame]
    exact h
  · exact (run_users hrun).issued h

theorem finds_post {id : Id} {row : UserRow} (h : x.stmt.finds x.result = some (id, row)) :
    row.id = id ∧ row ∈ x.pre.state.accounts.users.rows := by
  have hok : ∀ {b}, x.result = .ok b → x.stmt.run settings x.input
    (x.pre.state.tick x.input.elapsed) = .ok (b, x.post.state) := run_of_ok
  generalize x.post.state = w' at hok
  generalize x.result = r at h hok
  obtain ⟨m, t, e, i⟩ := x
  cases e with
  | account e =>
    cases e with
    | findUser id' =>
      cases r with
      | error failure => cases h
      | ok found =>
        have hrun := hok rfl
        cases found with
        | none => cases h
        | some row' =>
          cases h
          simp only [Stmt.run, Accounts.Stmt.run, Except.map, Except.ok.injEq, Prod.mk.injEq]
            at hrun
          exact ⟨Table.find?_key hrun.1, Table.mem_of_find? hrun.1⟩
    | _ => cases h
  | _ => cases h

theorem counts_post {id : Id} {n : Nat} (h : x.stmt.counts x.result = some (id, n)) :
    n = x.pre.state.accounts.users.count (otherAdmin id) ∧
      x.post.state.accounts.users = x.pre.state.accounts.users ∧
        x.post.state.accounts.drawn = x.pre.state.accounts.drawn := by
  have hok : ∀ {b}, x.result = .ok b → x.stmt.run settings x.input
    (x.pre.state.tick x.input.elapsed) = .ok (b, x.post.state) := run_of_ok
  generalize x.post.state = w' at hok ⊢
  generalize x.result = r at h hok
  obtain ⟨m, t, e, i⟩ := x
  cases e with
  | countOtherAdmins targetId =>
    cases r with
    | error failure => cases h
    | ok count =>
      cases h
      have hrun := hok rfl
      cases hrun
      exact ⟨rfl, rfl, rfl⟩
  | _ => cases h

omit [Installation] in
theorem flips_known (hkept : AccountsKept x.pre) (hrule : Ruled x) {username : String}
    {active : Bool} (hflips : x.stmt.flips = some (username, active)) :
    ∃ row ∈ x.pre.state.accounts.users.rows, row.username = username := by
  obtain ⟨-, id, row, ⟨ev, hev, hfinds⟩, hname⟩ := hrule.flips username active hflips
  obtain ⟨row', hrow', hsame⟩ := hkept.seen ev (List.mem_of_mem_filter hev) id row hfinds
  exact ⟨row', hrow', hsame.username.trans hname⟩

theorem accountsKept_post (hrule : Ruled x) (h : AccountsKept x.pre) : AccountsKept x.post := by
  constructor
  case issued => exact issued_post h.issued
  case usernames =>
    have hissued := issued_post h.issued
    have hnew : ∀ {row₁ row₂ : UserRow}, row₁ ∈ x.post.state.accounts.users.rows →
        NewAccount x.pre.state.accounts x.post.state.accounts row₂ →
          row₁.username = row₂.username → row₁.id = row₂.id := by
      intro row₁ row₂ hrow₁ hnew hname
      rcases rows_post hrow₁ with ⟨old, hold, hturn⟩ | hnew'
      · exact absurd (hturn.1.username.symm.trans hname) (hnew.username old hold)
      · exact hnew'.id.trans hnew.id.symm
    intro row₁ hrow₁ row₂ hrow₂ hname
    refine hissued.unique.eq_of_key hrow₁ hrow₂ ?_
    rcases rows_post hrow₂ with ⟨old₂, hold₂, hturn₂⟩ | hnew₂
    · rcases rows_post hrow₁ with ⟨old₁, hold₁, hturn₁⟩ | hnew₁
      · have hsame := h.usernames old₁ hold₁ old₂ hold₂
          (hturn₁.1.username.symm.trans (hname.trans hturn₂.1.username))
        subst hsame
        exact hturn₁.1.id.trans hturn₂.1.id.symm
      · exact (hnew hrow₂ hnew₁ hname.symm).symm
    · exact hnew hrow₁ hnew₂ hname
  case known =>
    have hold : ∀ {username : String}, (∃ row ∈ x.pre.state.accounts.users.rows,
        row.username = username) → ∃ row ∈ x.post.state.accounts.users.rows,
          row.username = username := by
      rintro username ⟨row, hrow, hname⟩
      obtain ⟨row', hrow', hturn⟩ := survives_post hrow
      exact ⟨row', hrow', hturn.1.username.trans hname⟩
    intro entry hentry
    rcases gitea_post x with hsame | ⟨state, hflips, hset⟩
    · rw [hsame] at hentry
      exact hold (h.known entry hentry)
    · rw [hset] at hentry
      rcases List.mem_cons.mp hentry with rfl | hentry
      · exact hold (flips_known h hrule hflips)
      · exact hold (h.known entry hentry)
  case seen =>
    intro ev hev id row hfinds
    have hsurvives : ∀ row' ∈ x.pre.state.accounts.users.rows, SameAccount row row' →
        ∃ row'' ∈ x.post.state.accounts.users.rows, SameAccount row row'' := by
      intro row' hrow' hsame
      obtain ⟨row'', hrow'', hturn⟩ := survives_post hrow'
      exact ⟨row'', hrow'', hsame.trans hturn.1⟩
    rw [x.post_history] at hev
    rcases List.mem_append.mp hev with hev | hev
    · obtain ⟨row', hrow', hsame⟩ := h.seen ev hev id row hfinds
      exact hsurvives row' hrow' hsame
    · obtain rfl := List.mem_singleton.mp hev
      exact hsurvives row (finds_post hfinds).2 (.refl row)

/-- Some administrator is deactivated. -/
def lowers (x : AdminStep) : Bool := x.pre.state.lowers x.post.state

theorem others_post (h : x.pre.state.accounts.users.Unique) (id : Id) :
    x.pre.state.accounts.users.count (otherAdmin id) ≤
      x.post.state.accounts.users.count (otherAdmin id) + if lowers x = true then 1 else 0 := by
  unfold lowers
  rcases post_run x with hsame | ⟨b, hrun⟩
  · rw [hsame]
    exact Nat.le_add_right _ _
  · exact run_others hrun h id

end

/-! ## Runs -/

section

variable [Installation]

def AdminCalls (_ : AdminMoment) (p : Call Unit) : Prop := AdminCall p

structure Undisturbed (tr : List AdminStep) : Prop where
  /-- Between a count and the update of its call, fewer administrators are deactivated than have
  been counted. -/
  counted : ∀ tr₁ x tr₂ y tr₃, tr = tr₁ ++ x :: (tr₂ ++ y :: tr₃) → x.thread = y.thread →
    ∀ id n, x.stmt.counts x.result = some (id, n) → y.stmt.updates = some (id, false) →
      tr₂.countP lowers < n
  flipped : ∀ y ∈ tr, ∀ id active, y.stmt.updates = some (id, active) →
    ∀ row ∈ y.pre.state.accounts.users.rows, row.id = id →
      y.pre.state.giteaActive row.username = active

/-- Every request that sets an account in Gitea, and every update behind it, is answered. -/
def Answered (tr : List AdminStep) : Prop :=
  ∀ x ∈ tr, x.stmt.flips.isSome = true ∨ x.stmt.updates.isSome = true → x.result.isOk = true

structure AdministratorsKept (tr : List AdminStep) (c : AdminSystem) : Prop where
  administered : ∃ row ∈ c.moment.state.accounts.users.rows, activeAdmin row = true
  agrees : Answered tr → (∀ p ∈ c.threads, p.returned = true) →
    ∀ row ∈ c.moment.state.accounts.users.rows,
      c.moment.state.giteaActive row.username = row.active

structure Sound (w : World) : Prop where
  issued : w.accounts.users.Issued w.accounts.drawn
  usernames : ∀ row ∈ w.accounts.users.rows, ∀ row' ∈ w.accounts.users.rows,
    row.username = row'.username → row = row'
  known : ∀ entry ∈ w.gitea, ∃ row ∈ w.accounts.users.rows, row.username = entry.1
  administered : ∃ row ∈ w.accounts.users.rows, activeAdmin row = true
  agrees : ∀ row ∈ w.accounts.users.rows, w.giteaActive row.username = row.active

variable {w : World} {tr : List AdminStep} {c c' : AdminSystem}

theorem genuine_run (hrun : Run AdminCalls (Config.start w) tr c) :
    ∀ ev ∈ c.moment.history, Genuine ev := by
  intro ev hev
  rw [hrun.history_eq] at hev
  obtain ⟨x, -, rfl⟩ := List.mem_map.mp hev
  exact fun id row hfinds => (finds_post hfinds).1

theorem flips_run (hrun : Run AdminCalls (Config.start w) tr c) :
    (∀ t p, c.threads[t]? = some p → Flips (fun _ => Level) t p (own t c.moment.history)) ∧
      ∀ x ∈ tr, Ruled x :=
  Run.meets (fun _ _ _ hp => adminCall_flips hp) hrun (genuine_run hrun)

omit [Installation] in
theorem accountsKept_start (hw : Sound w) :
    AccountsKept (Config.start (E := Stmt) (ι := ApiInput) (ε := Accounts.Failure) w).moment :=
  ⟨hw.issued, hw.usernames, hw.known, fun _ hev => absurd hev List.not_mem_nil⟩

theorem accountsKept_run (hw : Sound w) (hrun : Run AdminCalls (Config.start w) tr c) :
    ∀ x ∈ tr, AccountsKept x.pre :=
  hrun.preserves_pre AccountsKept Ruled (fun _ => accountsKept_post) (flips_run hrun).2
    (accountsKept_start hw)

theorem others_run (hrun : Run AdminCalls c tr c')
    (hissued : c.moment.state.accounts.users.Issued c.moment.state.accounts.drawn) (id : Id) :
    c'.moment.state.accounts.users.Issued c'.moment.state.accounts.drawn ∧
      c.moment.state.accounts.users.count (otherAdmin id) ≤
        c'.moment.state.accounts.users.count (otherAdmin id) + tr.countP lowers := by
  induction hrun with
  | refl => exact ⟨hissued, Nat.le_refl _⟩
  | spawn _ _ ih => exact ih
  | @step tr m ts t β e k i _ _ ih =>
    obtain ⟨hissued', hle⟩ := ih
    have hstep : m.state.accounts.users.count (otherAdmin id) ≤
        (m.next t e i).state.accounts.users.count (otherAdmin id) +
          if lowers (⟨m, t, e, i⟩ : AdminStep) = true then 1 else 0 :=
      others_post (x := ⟨m, t, e, i⟩) hissued'.unique id
    refine ⟨issued_post (x := ⟨m, t, e, i⟩) hissued', ?_⟩
    rw [List.countP_append, List.countP_singleton]
    dsimp only at hle ⊢
    omega

theorem others_left (hw : Sound w) (hrun : Run AdminCalls (Config.start w) tr c)
    (hundisturbed : Undisturbed tr) : ∀ y ∈ tr, ∀ id, y.stmt.updates = some (id, false) →
      ∀ row ∈ y.pre.state.accounts.users.rows, row.id = id → activeAdmin row = true →
        ∃ other ∈ y.pre.state.accounts.users.rows, otherAdmin id other = true := by
  intro y hy id hupdates row hrow hid hadmin
  have hkept := accountsKept_run hw hrun y hy
  obtain ⟨found, ⟨ev, hev, hfinds⟩, hfoundid, -, hcounted⟩ :=
    ((flips_run hrun).2 y hy).updates id false hupdates
  -- The row has the role that the call has read.
  obtain ⟨row', hrow', hsame⟩ := hkept.seen ev (List.mem_of_mem_filter hev) id found hfinds
  obtain rfl := hkept.issued.unique.eq_of_key hrow' hrow (hsame.id.trans (hfoundid.trans hid.symm))
  simp only [activeAdmin, Bool.and_eq_true, decide_eq_true_eq] at hadmin
  obtain ⟨n, ⟨count, hcount, hn⟩, -⟩ := hcounted rfl (hsame.platformRole.symm.trans hadmin.1)
  -- The count of the call is an earlier step.
  obtain ⟨tr₁, tr₃, rfl⟩ := List.append_of_mem hy
  obtain ⟨c₁, hrun₁, hrun₃⟩ := hrun.split rfl
  have hpre := hrun₃.uncons.1
  rw [hpre, hrun₁.history_eq] at hcount
  obtain ⟨hcount, hthread⟩ := List.mem_filter.mp hcount
  obtain ⟨x, hx, rfl⟩ := List.mem_map.mp hcount
  obtain ⟨tr₀, tr₂, rfl⟩ := List.append_of_mem hx
  have hfew := hundisturbed.counted tr₀ x tr₂ y tr₃ (by simp) (of_decide_eq_true hthread) id n hn
    hupdates
  obtain ⟨c₀, hrun₀, hrun₂⟩ := hrun₁.split rfl
  obtain ⟨hprex, c₂, hpost, hrun₂⟩ := hrun₂.uncons
  obtain ⟨rfl, husers, hdrawn⟩ := counts_post hn
  have hissued : c₂.moment.state.accounts.users.Issued c₂.moment.state.accounts.drawn := by
    have hxkept := accountsKept_run hw hrun x (by simp)
    rw [hpost, husers, hdrawn]
    exact hxkept.issued
  have hle := (others_run hrun₂ hissued id).2
  rw [hpost, husers, ← hpre] at hle
  exact (Table.count_pos_iff _ _).mp (by omega)

theorem administered_run (hw : Sound w) (hrun : Run AdminCalls (Config.start w) tr c)
    (hundisturbed : Undisturbed tr) :
    ∃ row ∈ c.moment.state.accounts.users.rows, activeAdmin row = true := by
  refine hrun.preserves (fun m => ∃ row ∈ m.state.accounts.users.rows, activeAdmin row = true)
    (fun y => ∀ id, y.stmt.updates = some (id, false) →
      ∀ row ∈ y.pre.state.accounts.users.rows, row.id = id → activeAdmin row = true →
        ∃ other ∈ y.pre.state.accounts.users.rows, otherAdmin id other = true)
    ?_ (others_left hw hrun hundisturbed) hw.administered
  rintro y hothers ⟨row, hrow, hadmin⟩
  have hstays : ∀ row ∈ y.pre.state.accounts.users.rows, activeAdmin row = true →
      y.stmt.updates ≠ some (row.id, false) →
        ∃ row' ∈ y.post.state.accounts.users.rows, activeAdmin row' = true := by
    intro row hrow hadmin hother
    obtain ⟨row', hrow', hsame, hturn⟩ := survives_post hrow
    refine ⟨row', hrow', ?_⟩
    simp only [activeAdmin, Bool.and_eq_true, decide_eq_true_eq] at hadmin ⊢
    refine ⟨hsame.platformRole.trans hadmin.1, ?_⟩
    rcases hturn with hactive | hset
    · rw [hactive]
      exact hadmin.2
    · cases hactive : row'.active with
      | true => rfl
      | false =>
        rw [hactive] at hset
        exact absurd hset hother
  by_cases hset : y.stmt.updates = some (row.id, false)
  · obtain ⟨other, hother, hne⟩ := hothers row.id hset row hrow rfl hadmin
    rw [otherAdmin_eq, Bool.and_eq_true, decide_eq_true_eq] at hne
    refine hstays other hother hne.1 fun hset' => ?_
    rw [hset] at hset'
    simp only [Option.some.injEq, Prod.mk.injEq, and_true] at hset'
    exact hne.2 hset'.symm
  · exact hstays row hrow hadmin hset

/-! ## Gitea -/

/-- A row agrees with Gitea, or a call that has set the account last is about to update the row. -/
def Agreeing (m : AdminMoment) : Prop :=
  ∀ row ∈ m.state.accounts.users.rows, m.state.giteaActive row.username = row.active ∨
    ∃ t, flip (own t m.history) = some (row.username, m.state.giteaActive row.username)

theorem flip_post (x : AdminStep) (t : Nat) : flip (own t x.post.history) =
    if x.thread = t then x.stmt.flipAfter x.result (flip (own t x.pre.history))
    else flip (own t x.pre.history) := by
  rw [x.post_history, own_append]
  split
  · rename_i ht
    subst ht
    have hself : own x.thread [x.event] = [x.event] := own_self _ _ _ _
    rw [hself, flip_append]
    rfl
  · rename_i ht
    have hnone : own t [x.event] = [] := own_of_ne ht _ _ _
    rw [hnone, List.append_nil]

omit [Installation] in
theorem flipAfter_of_flips {e : Stmt β} {r : Except Accounts.Failure β} {state : String × Bool}
    {held : Option (String × Bool)} (h : e.flips = some state) (hok : r.isOk = true) :
    e.flipAfter r held = some state := by
  cases e with
  | setUserActive username active =>
    cases h
    simp [Stmt.flipAfter, hok]
  | _ => cases h

omit [Installation] in
theorem giteaActive_cons (w : World) (gitea : List (String × Bool)) (state : String × Bool)
    (hset : w.gitea = state :: gitea) (username : String) : w.giteaActive username =
      if state.1 = username then state.2 else ({ w with gitea } : World).giteaActive username := by
  unfold World.giteaActive
  rw [hset, List.find?_cons]
  by_cases hname : state.1 = username
  · simp [hname]
  · simp [hname]

theorem agreeing_post {x : AdminStep} (hkept : AccountsKept x.pre) (hrule : Ruled x)
    (hflipped : ∀ id active, x.stmt.updates = some (id, active) →
      ∀ row ∈ x.pre.state.accounts.users.rows, row.id = id →
        x.pre.state.giteaActive row.username = active)
    (hok : x.stmt.flips.isSome = true ∨ x.stmt.updates.isSome = true → x.result.isOk = true)
    (h : Agreeing x.pre) : Agreeing x.post := by
  intro row' hrow'
  rcases gitea_post x with hgitea | ⟨state, hflips, hset⟩
  · have hactive : ∀ username, x.post.state.giteaActive username =
        x.pre.state.giteaActive username := by
      intro username
      unfold World.giteaActive
      rw [hgitea]
    rw [hactive]
    rcases rows_post hrow' with ⟨row, hrow, hsame, hturn⟩ | hnew
    · rw [hsame.username]
      by_cases hset : ∃ active, x.stmt.updates = some (row.id, active)
      · -- The update writes what Gitea has.
        obtain ⟨active, hset⟩ := hset
        have hstate := hflipped row.id active hset row hrow rfl
        obtain ⟨b, hresult⟩ : ∃ b, x.result = .ok b := by
          cases hresult : x.result with
          | ok b => exact ⟨b, rfl⟩
          | error failure =>
            have hanswered := hok (.inr (by rw [hset]; rfl))
            rw [hresult] at hanswered
            cases hanswered
        have hturned := (run_users (run_of_ok hresult)).descends row' hrow'
        rcases hturned with ⟨old, hold, hexact⟩ | hnew
        · have hid : old.id = row.id := hexact.id.symm.trans hsame.id
          have hwritten := hexact.set active (by rw [hid]; exact hset)
          exact .inl (hstate.trans hwritten.symm)
        · exact absurd hsame.username.symm (hnew.username row hrow)
      · have hsameactive : row'.active = row.active := by
          rcases hturn with hturn | hturn
          · exact hturn
          · exact absurd ⟨_, hturn⟩ hset
        rw [hsameactive]
        rcases h row hrow with hagrees | ⟨t, hpending⟩
        · exact .inl hagrees
        · refine .inr ⟨t, ?_⟩
          rw [flip_post]
          split
          · rename_i ht
            subst ht
            cases hupdates : x.stmt.updates with
            | none =>
              cases hflips : x.stmt.flips with
              | none =>
                have hquiet : Unflipping x.stmt := ⟨hflips, hupdates⟩
                rw [hquiet.after]
                exact hpending
              | some state =>
                have hnone := (hrule.flips state.1 state.2 hflips).1
                rw [hnone] at hpending
                cases hpending
            | some update =>
              -- The call updates the row that it has set.
              obtain ⟨found, ⟨ev, hev, hfinds⟩, hid, hflip, -⟩ :=
                hrule.updates update.1 update.2 hupdates
              rw [hflip] at hpending
              have hname : found.username = row.username := by
                simp only [Option.some.injEq, Prod.mk.injEq] at hpending
                exact hpending.1
              obtain ⟨seen, hseen, hseensame⟩ :=
                hkept.seen ev (List.mem_of_mem_filter hev) _ _ hfinds
              have hrowseen := hkept.usernames seen hseen row hrow
                (hseensame.username.trans hname)
              refine absurd ⟨update.2, ?_⟩ hset
              rw [hupdates, ← hrowseen, hseensame.id, hid]
          · exact hpending
    · refine .inl ?_
      have hnone : x.pre.state.gitea.find? (fun entry => entry.1 = row'.username) = none := by
        refine List.find?_eq_none.mpr fun entry hentry hname => ?_
        obtain ⟨row, hrow, hrowname⟩ := hkept.known entry hentry
        exact hnew.username row hrow (hrowname.trans (of_decide_eq_true hname))
      have hcreated : x.pre.state.giteaActive row'.username = true := by
        unfold World.giteaActive
        rw [hnone]
        rfl
      rw [hnew.active]
      exact hcreated
  · have hstate := giteaActive_cons x.post.state x.pre.state.gitea state hset
    have hanswered := hok (.inl (by rw [hflips]; rfl))
    have hpre : ∀ username, ({ x.post.state with gitea := x.pre.state.gitea } : World).giteaActive
        username = x.pre.state.giteaActive username := fun _ => rfl
    rw [hstate]
    by_cases hname : state.1 = row'.username
    · rw [if_pos hname]
      refine .inr ⟨x.thread, ?_⟩
      rw [flip_post, if_pos rfl, flipAfter_of_flips hflips hanswered, ← hname]
    · rw [if_neg hname, hpre]
      obtain ⟨row, hrow, hrowname, hactive⟩ : ∃ row ∈ x.pre.state.accounts.users.rows,
          row.username = row'.username ∧ row.active = row'.active := by
        obtain ⟨b, hresult⟩ : ∃ b, x.result = .ok b := by
          cases hresult : x.result with
          | ok b => exact ⟨b, rfl⟩
          | error failure =>
            rw [hresult] at hanswered
            cases hanswered
        have hrun := run_of_ok hresult
        generalize x.post.state = w' at hrow' hrun
        obtain ⟨m, t, e, i⟩ := x
        cases e with
        | setUserActive username active =>
          cases hrun
          exact ⟨row', hrow', rfl, rfl⟩
        | _ => cases hflips
      rw [← hrowname, ← hactive]
      rcases h row hrow with hagrees | ⟨t, hpending⟩
      · exact .inl hagrees
      · refine .inr ⟨t, ?_⟩
        rw [flip_post]
        split
        · rename_i ht
          subst ht
          rw [(hrule.flips state.1 state.2 hflips).1] at hpending
          cases hpending
        · exact hpending

theorem agreeing_run (hw : Sound w) (hrun : Run AdminCalls (Config.start w) tr c)
    (hundisturbed : Undisturbed tr) (hanswered : Answered tr) : Agreeing c.moment := by
  have hkept := accountsKept_run hw hrun
  have hrule := (flips_run hrun).2
  exact hrun.preserves Agreeing
    (fun x => AccountsKept x.pre ∧ Ruled x ∧ (∀ id active, x.stmt.updates = some (id, active) →
      ∀ row ∈ x.pre.state.accounts.users.rows, row.id = id →
        x.pre.state.giteaActive row.username = active) ∧
      (x.stmt.flips.isSome = true ∨ x.stmt.updates.isSome = true → x.result.isOk = true))
    (fun x hx => agreeing_post hx.1 hx.2.1 hx.2.2.1 hx.2.2.2)
    (fun x hx => ⟨hkept x hx, hrule x hx, hundisturbed.flipped x hx, hanswered x hx⟩)
    fun row hrow => .inl (hw.agrees row hrow)

theorem flip_of_returned (hrun : Run AdminCalls (Config.start w) tr c) (hanswered : Answered tr)
    (hreturned : ∀ p ∈ c.threads, p.returned = true) (t : Nat) :
    flip (own t c.moment.history) = none := by
  cases hthread : c.threads[t]? with
  | none =>
    have hnil : own t c.moment.history = [] := by
      refine List.filter_eq_nil_iff.mpr fun ev hev => ?_
      have hlt := hrun.history_threads ev hev
      have hlen := List.getElem?_eq_none_iff.mp hthread
      simp only [decide_eq_true_eq]
      omega
    rw [hnil]
    rfl
  | some p =>
    have hmeets := (flips_run hrun).1 t p hthread
    have hdone := hreturned p (List.mem_of_getElem? hthread)
    cases p with
    | call e k => cases hdone
    | ret r =>
      rcases hmeets with hnone | ⟨ev, hev, hupdates, herror⟩
      · exact hnone
      · have hall := List.mem_of_mem_filter hev
        rw [hrun.history_eq] at hall
        obtain ⟨x, hx, rfl⟩ := List.mem_map.mp hall
        have hok := hanswered x hx (.inr hupdates)
        exact absurd (herror.symm.trans hok) Bool.false_ne_true

/-- In every run in which the calls do not disturb each other, an administrator remains and the
accounts agree with Gitea. -/
theorem administrators_kept (hw : Sound w) (hrun : Run AdminCalls (Config.start w) tr c)
    (hundisturbed : Undisturbed tr) : AdministratorsKept tr c := by
  constructor
  case administered => exact administered_run hw hrun hundisturbed
  case agrees =>
    intro hanswered hreturned row hrow
    rcases agreeing_run hw hrun hundisturbed hanswered row hrow with hagrees | ⟨t, hpending⟩
    · exact hagrees
    · rw [flip_of_returned hrun hanswered hreturned t] at hpending
      cases hpending

end

/-! ## Two administrators -/

def administrator (id : Id) (username : String) : UserRow where
  id := id
  giteaId := none
  username := username
  name := none
  email := none
  avatarUrl := none
  accessToken := ""
  passwordHash := none
  platformRole := .admin
  active := true
  mustChangePassword := false
  tokenVersion := 0
  emailVerifiedAt := none

def pair : World where
  accounts := { users := ⟨[administrator 0 "anna", administrator 1 "ben"]⟩, drawn := 2 }

theorem pair_sound : Sound pair where
  issued := ⟨by decide, by decide⟩
  usernames := by decide
  known := nofun
  administered := ⟨administrator 0 "anna", .head _, rfl⟩
  agrees := by decide

section

attribute [local instance] Accounts.closedInstallation

theorem setActive_calls {m : AdminMoment} {calls : List (Id × Id × Bool)} :
    ∀ p ∈ calls.map fun call => (setActive call.1 call.2.1 call.2.2).ignoreError,
      AdminCalls m p := by
  intro p hp
  obtain ⟨call, -, rfl⟩ := List.mem_map.mp hp
  exact .setActive _ _ _

/-- Enough for `Undisturbed`: only the last step deactivates an administrator. -/
def undisturbed (tr : List AdminStep) : Bool :=
  tr.dropLast.all (fun x => !lowers x) &&
    tr.all (fun x => (x.stmt.counts x.result).all fun count => 0 < count.2) &&
      tr.all fun y => y.stmt.updates.all fun update => y.pre.state.accounts.users.rows.all fun row =>
        row.id ≠ update.1 || y.pre.state.giteaActive row.username = update.2

theorem undisturbed_of_bool {tr : List AdminStep} (h : undisturbed tr = true) :
    Undisturbed tr := by
  unfold undisturbed at h
  simp only [Bool.and_eq_true, List.all_eq_true] at h
  obtain ⟨⟨hlast, hcounts⟩, hflipped⟩ := h
  constructor
  case counted =>
    intro tr₁ x tr₂ y tr₃ htr hthread id n hn hupdates
    have hnone : tr₂.countP lowers = 0 := by
      refine List.countP_eq_zero.mpr fun z hz hlowers => ?_
      have hmem : z ∈ tr.dropLast := by
        rw [htr, List.dropLast_append_of_ne_nil (List.cons_ne_nil _ _), List.dropLast_cons_of_ne_nil
          (by simp), List.dropLast_append_of_ne_nil (List.cons_ne_nil _ _)]
        exact List.mem_append_right _ (.tail _ (List.mem_append_left _ hz))
      simpa [hlowers] using hlast z hmem
    have hpos := hcounts x (by rw [htr]; simp)
    rw [hn, Option.all_some] at hpos
    rw [hnone]
    exact of_decide_eq_true hpos
  case flipped =>
    intro y hy id active hupdates row hrow hid
    have hall := hflipped y hy
    rw [hupdates, Option.all_some, List.all_eq_true] at hall
    simpa [hid] using hall row hrow

/-- One administrator deactivates the other. -/
theorem pair_kept : ∃ (tr : List AdminStep) (c : AdminSystem),
    Run AdminCalls (Config.start pair) tr c ∧ AdministratorsKept tr c ∧
      c.moment.state.accounts.users.rows.map (·.active) = [true, false] := by
  obtain ⟨tr, c, hrun, hcheck⟩ := run_of_plays (Config.start pair)
    ([(0, 1, false)].map fun call => (setActive call.1 call.2.1 call.2.2).ignoreError)
    (List.replicate 5 (0, {}))
    (fun tr c => undisturbed tr &&
      c.moment.state.accounts.users.rows.map (·.active) = [true, false])
    setActive_calls (by decide)
  simp only [Bool.and_eq_true, decide_eq_true_eq] at hcheck
  exact ⟨tr, c, hrun, administrators_kept pair_sound hrun (undisturbed_of_bool hcheck.1), hcheck.2⟩

/-- Each administrator counts the other one before either is deactivated. -/
theorem pair_deactivated : ¬ ∀ (w : World) (tr : List AdminStep) (c : AdminSystem), Sound w →
    Run AdminCalls (Config.start w) tr c → AdministratorsKept tr c := by
  intro h
  obtain ⟨tr, c, hrun, hcheck⟩ := run_of_plays (Config.start pair)
    ([(0, 1, false), (1, 0, false)].map fun call =>
      (setActive call.1 call.2.1 call.2.2).ignoreError)
    ([0, 1, 0, 1, 0, 1, 0, 1, 0, 1].map fun t => (t, {}))
    (fun _ c => c.moment.state.accounts.users.rows.all fun row => !activeAdmin row)
    setActive_calls (by decide)
  obtain ⟨row, hrow, hadmin⟩ := (h pair tr c pair_sound hrun).administered
  have hnone := List.all_eq_true.mp hcheck row hrow
  simp [hadmin] at hnone

end

end InitPad.Admin
