import InitPad.Hosting.DeploymentService
import InitPad.Interleave.Crash

/-!
# InitPad.Hosting.HostsRules

What the calls of a provider can change: which containers, and which paths. A run removes the
containers that its carried out removals name and leaves the others; it leaves every path that none
of its statements writes.
-/

namespace InitPad.Hosting

open Store Interleave Prog

abbrev HostsEvent := Event Stmt Reply Failure

def Reply.carriedOut (i : Reply) : Bool := i.fault.all fun fault => fault.carriedOut

variable {α β : Type} {m m' m₁ : HostsMoment} {r : Except Failure α} {p : OnHosts α}
  {rest : List HostsEvent}

/-- The call was executed, with a reply and an answer that satisfy `q`. -/
def Happened (rest : List HostsEvent) (e : Stmt β) (q : Reply → Except Failure β → Prop) : Prop :=
  ∃ t i r, (⟨t, e, i, r⟩ : HostsEvent) ∈ rest ∧ q i r

/-- The call was executed, and it had its effect. -/
def CarriedOut (rest : List HostsEvent) (e : Stmt β) : Prop :=
  Happened rest e fun i _ => i.carriedOut = true

def Answered (rest : List HostsEvent) (e : Stmt β) : Prop :=
  Happened rest e fun _ r => ∃ b, r = .ok b

section Happened

variable {e e' : Stmt β} {q : Reply → Except Failure β → Prop} {rest' : List HostsEvent}

theorem happened_append :
    Happened (rest ++ rest') e q ↔ Happened rest e q ∨ Happened rest' e q := by
  constructor
  · rintro ⟨t, i, r, hev, hq⟩
    rcases List.mem_append.mp hev with hev | hev
    · exact .inl ⟨t, i, r, hev, hq⟩
    · exact .inr ⟨t, i, r, hev, hq⟩
  · rintro (⟨t, i, r, hev, hq⟩ | ⟨t, i, r, hev, hq⟩)
    · exact ⟨t, i, r, List.mem_append_left _ hev, hq⟩
    · exact ⟨t, i, r, List.mem_append_right _ hev, hq⟩

theorem happened_self {t : Nat} {i : Reply} {r : Except Failure β} :
    Happened [⟨t, e, i, r⟩] e q ↔ q i r := by
  constructor
  · rintro ⟨t', i', r', hev, hq⟩
    cases List.mem_singleton.mp hev
    exact hq
  · exact fun hq => ⟨t, i, r, .head _, hq⟩

theorem not_happened {P : ∀ {γ : Type}, Stmt γ → Prop} (hrest : ∀ ev ∈ rest, P ev.stmt)
    (he : ¬ P e) : ¬ Happened rest e q := by
  rintro ⟨t, i, r, hev, _⟩
  exact he (hrest _ hev)

end Happened

theorem exec_eq (e : Stmt β) (i : Reply) (h : Hosts) :
    exec e i h = Interleave.execute (e.fault i) (e.run i h) h := rfl

theorem exec_state (e : Stmt β) (i : Reply) (h : Hosts) :
    (exec e i h).2 = h ∨ ∃ b, e.run i h = .ok (b, (exec e i h).2) := execute_state _ _ _

theorem exec_ok {e : Stmt β} {i : Reply} {h : Hosts} {b : β} (hok : (exec e i h).1 = .ok b) :
    e.run i h = .ok (b, (exec e i h).2) := execute_ok hok

/-! ## Containers -/

/-- Calls that create no container, and change none that stays. -/
def Stmt.keepsContainers : Stmt β → Bool
  | .createContainer _ | .startContainer _ | .stopContainer _ => false
  | _ => true

def Stmt.removes (c : Container) : Stmt β → Bool
  | .removeContainer ref => ref.names c
  | _ => false

/-- Some removal that names `c` was carried out. -/
def Removed (rest : List HostsEvent) (c : Container) : Prop :=
  ∃ ref : Ref, ref.names c = true ∧ CarriedOut rest (.removeContainer ref)

theorem run_containers {e : Stmt β} (he : e.keepsContainers = true) {i : Reply} {h h' : Hosts}
    {b : β} (hrun : e.run i h = .ok (b, h')) (c : Container) :
    c ∈ h'.docker.containers ↔ c ∈ h.docker.containers ∧ e.removes c = false := by
  have hsame : h'.docker.containers = h.docker.containers → e.removes c = false →
      (c ∈ h'.docker.containers ↔ c ∈ h.docker.containers ∧ e.removes c = false) := by
    intro heq hkept
    rw [heq, and_iff_left hkept]
  cases e with
  | createContainer | startContainer | stopContainer => cases he
  | removeContainer ref =>
    simp only [Stmt.run] at hrun
    split at hrun
    · cases hrun
      simp [Hosts.onDocker, Docker.removeContainer, Stmt.removes]
    · cases hrun
  | removeImage tag =>
    simp only [Stmt.run] at hrun
    split at hrun
    case h_1 d hd =>
      cases hrun
      refine hsame ?_ rfl
      simp only [Docker.untag, Option.bind_eq_some_iff] at hd
      obtain ⟨image, _, hd⟩ := hd
      split at hd
      · cases hd
      · cases hd
        rfl
    case h_2 => cases hrun
  | inspectNetwork | inspectImage | mkdir | stat | unlink | symlink | rename | put | putArchive
      | rmdir | readdir | inspectContainer =>
    simp only [Stmt.run] at hrun
    repeat' split at hrun
    all_goals first | cases hrun; done | (cases hrun; exact hsame rfl rfl)
  | _ =>
    cases hrun
    exact hsame rfl rfl

theorem exec_of_not_carriedOut {e : Stmt β} {i : Reply} (h : Hosts)
    (hremote : e.fault i = i.fault) (hi : i.carriedOut = false) : (exec e i h).2 = h := by
  rw [exec_eq, hremote]
  cases hfault : i.fault with
  | none =>
    rw [Reply.carriedOut, hfault] at hi
    cases hi
  | some fault =>
    rw [Reply.carriedOut, hfault] at hi
    have hfalse : fault.carriedOut = false := hi
    simp [Interleave.execute, hfalse]

theorem exec_of_carriedOut {e : Stmt β} {i : Reply} {h h' : Hosts} {b : β}
    (hremote : e.fault i = i.fault) (hi : i.carriedOut = true) (hrun : e.run i h = .ok (b, h')) :
    (exec e i h).2 = h' := by
  rw [exec_eq, hremote, hrun]
  cases hfault : i.fault with
  | none => rfl
  | some fault =>
    rw [Reply.carriedOut, hfault] at hi
    have htrue : fault.carriedOut = true := hi
    simp [Interleave.execute, htrue, Interleave.commit]

theorem exec_containers {e : Stmt β} (he : e.keepsContainers = true) (i : Reply) (h : Hosts)
    (c : Container) : c ∈ (exec e i h).2.docker.containers ↔
      c ∈ h.docker.containers ∧ ¬ (e.removes c = true ∧ i.carriedOut = true) := by
  by_cases hremoves : e.removes c = true
  · cases e with
    | removeContainer ref =>
      cases hi : i.carriedOut with
      | false =>
        rw [exec_of_not_carriedOut h rfl hi]
        simp
      | true =>
        simp only [hremoves, and_self, not_true, and_false, iff_false]
        rcases exec_state (.removeContainer ref) i h with hsame | ⟨b, hrun⟩
        · intro hmem
          have hfound : (h.docker.container? ref).isSome = true := by
            rw [hsame] at hmem
            exact List.find?_isSome.mpr ⟨c, hmem, hremoves⟩
          have hdone := exec_of_carriedOut (e := .removeContainer ref) rfl hi
            (show Stmt.run i (.removeContainer ref) h = .ok ((), _) from if_pos hfound)
          rw [hdone] at hmem
          have hleft := (List.mem_filter.mp hmem).2
          rw [Stmt.removes] at hremoves
          rw [hremoves] at hleft
          cases hleft
        · intro hmem
          have hkept := ((run_containers he hrun c).mp hmem).2
          rw [hremoves] at hkept
          cases hkept
    | _ => cases hremoves
  · have hfalse : e.removes c = false := Bool.eq_false_iff.mpr hremoves
    rw [and_iff_left fun hand => hremoves hand.1]
    rcases exec_state e i h with hsame | ⟨b, hrun⟩
    · rw [hsame]
    · rw [run_containers he hrun c, and_iff_left hfalse]

/-- A program that creates, starts and stops nothing leaves the containers that none of its
removals hits. -/
theorem containers_after (hp : p.Only fun e => e.keepsContainers = true) (h : Ends p m r m')
    (hrest : m'.history = m.history ++ rest) (c : Container) :
    c ∈ m'.state.docker.containers ↔ c ∈ m.state.docker.containers ∧ ¬ Removed rest c := by
  have hafter := h.keeps
    (A := fun m₁ => ∃ rest₁, m₁.history = m.history ++ rest₁ ∧
      (c ∈ m₁.state.docker.containers ↔ c ∈ m.state.docker.containers ∧ ¬ Removed rest₁ c))
    (fun e i m₁ he hm₁ => ?_) hp ⟨[], (List.append_nil _).symm, ?_⟩
  · obtain ⟨rest₁, hrest₁, hc⟩ := hafter
    obtain rfl : rest₁ = rest := List.append_cancel_left (hrest₁.symm.trans hrest)
    exact hc
  · obtain ⟨rest₁, hrest₁, hc⟩ := hm₁
    refine ⟨rest₁ ++ [⟨0, e, i, (exec e i m₁.state).1⟩], ?_, ?_⟩
    · rw [Moment.next_history, hrest₁, List.append_assoc]
    · rw [Moment.next_state, exec_containers he, hc, and_assoc]
      refine and_congr_right fun _ => ?_
      rw [← not_or]
      refine not_congr ?_
      constructor
      · rintro (⟨ref, href, t, j, x, hev, hj⟩ | ⟨hremoves, hi⟩)
        · exact ⟨ref, href, t, j, x, List.mem_append_left _ hev, hj⟩
        · cases e with
          | removeContainer ref =>
            exact ⟨ref, hremoves, 0, i, _, List.mem_append_right _ (.head _), hi⟩
          | _ => cases hremoves
      · rintro ⟨ref, href, t, j, x, hev, hj⟩
        rcases List.mem_append.mp hev with hev | hev
        · exact .inl ⟨ref, href, t, j, x, hev, hj⟩
        · cases List.mem_singleton.mp hev
          exact .inr ⟨href, hj⟩
  · constructor
    · intro hc
      refine ⟨hc, ?_⟩
      rintro ⟨_, _, _, _, _, hev, _⟩
      cases hev
    · exact fun hc => hc.1

/-! ## Paths -/

inductive Write where
  | entry (p : Path)
  | tree (p : Path)
  deriving DecidableEq

def Write.Covers : Write → Path → Prop
  | .entry p, x => x = p
  | .tree p, x => p <+: x

def parents (p : Path) : List Write := (p.inits.filter fun q => !q.isEmpty).map .entry

def ShellStep.writes : ShellStep → List Write
  | .removeTree p => [.tree p]
  | .makeDirectory p => parents p
  | .write p _ => [.entry p]
  | .extract _ p => [.tree p]
  | .linkTo _ p => [.entry p]
  | .move p q => [.tree p, .tree q]
  | .removeOrQuarantine p root q => .tree p :: .tree q :: parents root
  | .echo _ | .changeMode _ | .findDirectories _ _ => []

def Stmt.writes : Stmt β → List Write
  | .mkdir p | .rmdir p | .unlink p | .symlink _ p | .put p _ | .putArchive p _ => [.entry p]
  | .rename p q => [.tree p, .tree q]
  | .exec script => script.flatMap ShellStep.writes
  | _ => []

/-- The entry is in both trees or in neither. -/
def SameEntry (t t' : Files) (e : Path × Entry) : Prop := e ∈ t'.entries ↔ e ∈ t.entries

section Frame

variable {t : Files} {e : Path × Entry} {i : Reply}

theorem SameEntry.rfl : SameEntry t t e := Iff.rfl

theorem SameEntry.trans {t' t'' : Files} (h : SameEntry t t' e) (h' : SameEntry t' t'' e) :
    SameEntry t t'' e := Iff.trans h' h

theorem set_frame {p : Path} {v : Entry} (hne : e.1 ≠ p) : SameEntry t (t.set p v) e := by
  rw [SameEntry, Tree.mem_set]
  constructor
  · rintro (rfl | ⟨hmem, _⟩)
    · exact absurd rfl hne
    · exact hmem
  · exact fun hmem => .inr ⟨hmem, hne⟩

theorem makeDirectories_frame {q : Path} (h : ∀ w ∈ parents q, ¬ w.Covers e.1) :
    SameEntry t (Files.makeDirectories t q) e := by
  unfold Files.makeDirectories
  have hmem : ∀ x ∈ q.inits, x.isEmpty = false → e.1 ≠ x := by
    intro x hx hne heq
    refine h (.entry x) (List.mem_map.mpr ⟨x, List.mem_filter.mpr ⟨hx, ?_⟩, rfl⟩) heq
    simp [hne]
  generalize q.inits = levels at hmem
  induction levels generalizing t with
  | nil => exact Iff.rfl
  | cons x levels ih =>
    rw [List.foldl_cons]
    refine .trans ?_ (ih fun y hy => hmem y (.tail _ hy))
    split
    · exact Iff.rfl
    · rename_i hset
      have hx : x.isEmpty = false := by
        cases hempty : x.isEmpty with
        | false => rfl
        | true => simp [hempty] at hset
      exact set_frame (hmem x (.head _) hx)

theorem prune_frame {p : Path} {kept : Path → Bool} (hp : ¬ p <+: e.1) :
    SameEntry t (t.prune p kept) e := by
  rw [SameEntry, Tree.mem_prune, and_iff_left fun hpre => absurd hpre hp]

theorem move_frame {p q : Path} (hp : ¬ p <+: e.1) (hq : ¬ q <+: e.1) :
    SameEntry t (t.move p q) e := by
  rw [SameEntry, Tree.mem_move]
  constructor
  · rintro (⟨d, _, _, rfl⟩ | ⟨hmem, _, _⟩)
    · exact absurd (List.prefix_append _ _) hq
    · exact hmem
  · exact fun hmem => .inr ⟨hmem, hp, hq⟩

theorem extract_frame {p : Path} (content : List LocalEntry) (hp : ¬ p <+: e.1) :
    SameEntry t (Files.extract t content p) e := by
  unfold Files.extract
  induction content generalizing t with
  | nil => exact Iff.rfl
  | cons c content ih =>
    rw [List.foldl_cons]
    refine .trans (set_frame ?_) ih
    rintro heq
    exact hp (heq ▸ List.prefix_append _ _)

theorem step_frame (step : ShellStep) (h : ∀ w ∈ step.writes, ¬ w.Covers e.1) :
    SameEntry t (step.run i t).files e := by
  cases step with
  | echo | changeMode => exact Iff.rfl
  | findDirectories root start => simp only [ShellStep.run]; split <;> exact Iff.rfl
  | removeTree p => exact prune_frame (h (.tree p) (.head _))
  | makeDirectory p =>
    simp only [ShellStep.run]
    split
    · exact Iff.rfl
    · exact makeDirectories_frame h
  | write p content =>
    simp only [ShellStep.run]
    split
    · exact Iff.rfl
    · exact set_frame (h (.entry p) (.head _))
  | linkTo target p =>
    simp only [ShellStep.run]
    split
    · exact Iff.rfl
    · exact set_frame (h (.entry p) (.head _))
  | extract archive p =>
    simp only [ShellStep.run]
    repeat' split
    · exact Iff.rfl
    · exact extract_frame _ (h (.tree p) (.head _))
    · exact Iff.rfl
  | move p q =>
    simp only [ShellStep.run]
    split
    · exact Iff.rfl
    · exact move_frame (h (.tree p) (.head _)) (h (.tree q) (.tail _ (.head _)))
  | removeOrQuarantine p root q =>
    have hp : ¬ p <+: e.1 := h (.tree p) (.head _)
    have hq : ¬ q <+: e.1 := h (.tree q) (.tail _ (.head _))
    have hroot : ∀ w ∈ parents root, ¬ w.Covers e.1 :=
      fun w hw => h w (.tail _ (.tail _ hw))
    simp only [ShellStep.run]
    repeat' split
    · exact prune_frame hp
    · exact prune_frame hp
    · exact ((prune_frame hp).trans (makeDirectories_frame hroot)).trans (move_frame hp hq)

theorem script_frame {script : List ShellStep}
    (h : ∀ w ∈ script.flatMap ShellStep.writes, ¬ w.Covers e.1) :
    SameEntry t (runScript i script t).files e := by
  induction script generalizing t with
  | nil => exact Iff.rfl
  | cons step steps ih =>
    have hstep := step_frame (i := i) (t := t) step fun w hw =>
      h w (List.mem_flatMap.mpr ⟨step, .head _, hw⟩)
    simp only [runScript]
    split
    · refine hstep.trans (ih fun w hw => ?_)
      obtain ⟨s, hs, hw⟩ := List.mem_flatMap.mp hw
      exact h w (List.mem_flatMap.mpr ⟨s, .tail _ hs, hw⟩)
    · exact hstep

theorem run_frame {s : Stmt β} (h : ∀ w ∈ s.writes, ¬ w.Covers e.1) {hosts hosts' : Hosts} {b : β}
    (hrun : s.run i hosts = .ok (b, hosts')) : SameEntry hosts.files hosts'.files e := by
  have hsame : hosts'.files = hosts.files → SameEntry hosts.files hosts'.files e := by
    intro heq
    rw [heq]
    exact Iff.rfl
  cases s with
  | exec script =>
    cases hrun
    exact script_frame h
  | mkdir p | symlink target p | put p content | putArchive p content =>
    simp only [Stmt.run] at hrun
    split at hrun
    · cases hrun
    · cases hrun
      exact set_frame (h (.entry p) (.head _))
  | unlink p | rmdir p =>
    have hne : e.1 ≠ p := h (.entry p) (.head _)
    simp only [Stmt.run] at hrun
    repeat' split at hrun
    all_goals first
      | cases hrun; done
      | (cases hrun
         simp [SameEntry, Hosts.onFiles, Tree.mem_erase, hne])
  | rename p q =>
    simp only [Stmt.run] at hrun
    repeat' split at hrun
    · cases hrun
    · cases hrun
      exact move_frame (h (.tree p) (.head _)) (h (.tree q) (.tail _ (.head _)))
    · cases hrun
  | _ =>
    simp only [Stmt.run] at hrun
    repeat' split at hrun
    all_goals first | cases hrun; done | (cases hrun; exact hsame rfl)

theorem exec_frame {s : Stmt β} (h : ∀ w ∈ s.writes, ¬ w.Covers e.1) (i : Reply) (hosts : Hosts) :
    SameEntry hosts.files (exec s i hosts).2.files e := by
  rcases exec_state s i hosts with hsame | ⟨b, hrun⟩
  · rw [hsame]
    exact Iff.rfl
  · exact run_frame h hrun

theorem files_after (hp : p.Only fun s => ∀ w ∈ s.writes, ¬ w.Covers e.1) (h : Ends p m r m') :
    SameEntry m.state.files m'.state.files e :=
  h.keeps (A := fun m₁ => SameEntry m.state.files m₁.state.files e)
    (fun _ i m₁ hs hm₁ => hm₁.trans (exec_frame hs i m₁.state)) hp .rfl

end Frame

theorem clear_after {q : Path} (hp : p.Only fun s => ∀ w ∈ s.writes, ∀ x, q <+: x → ¬ w.Covers x)
    (h : Ends p m r m') : m'.state.files.clear q = m.state.files.clear q :=
  Tree.clear_congr fun e hq => files_after
    (hp.mono fun _ hs w hw => hs w hw e.1 hq) h

end InitPad.Hosting
