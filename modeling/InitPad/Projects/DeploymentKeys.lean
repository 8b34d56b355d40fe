import InitPad.Deployment.Types

/-!
# InitPad.Projects.DeploymentKeys

The workload keys of projects. A key is derived from the coordinates of the repository when the
project is stored, and kept when the repository is renamed. It always has the form that the Agent
asks for; `allocateDeploymentKey` looks for stored keys that are equal to the derived one, but not
for derived keys, and it does not check the key with the suffix again.
-/

namespace InitPad.Projects

abbrev Text := List Char

/-- `[a-z0-9]` -/
def isAlnum (c : Char) : Bool := c.isLower || c.isDigit

/-- `[a-z0-9-]` -/
def isKeyChar (c : Char) : Bool := isAlnum c || c == '-'

/-- `.replace(/[^a-z0-9-]+/g, '-')`; in a run the dash has been written. -/
def replaceRuns (inRun : Bool) : Text → Text
  | [] => []
  | c :: cs =>
    if isKeyChar c then c :: replaceRuns false cs
    else if inRun then replaceRuns true cs
    else '-' :: replaceRuns true cs

/-- `.replace(/^-+|-+$/g, '')` -/
def trimDashes (text : Text) : Text :=
  ((text.dropWhile (· == '-')).reverse.dropWhile (· == '-')).reverse

def deploymentSlug (owner name : Text) : Text :=
  trimDashes (replaceRuns false ((owner ++ '-' :: name).map Char.toLower))

def keySuffix (repositoryId token : Text) : Text :=
  let id := (repositoryId.map Char.toLower).filter isAlnum
  if id.isEmpty then ((token.map Char.toLower).filter isAlnum).take 8 else id.drop (id.length - 8)

/-- `SAFE_ID_PATTERN` of the Agent: `/^[a-z0-9][a-z0-9._-]{0,127}$/` -/
def isSafeId : Text → Bool
  | [] => false
  | c :: cs => isAlnum c && cs.all (fun c => isKeyChar c || c == '.' || c == '_') &&
      decide (cs.length ≤ 127)

/-- `PROJECT_NAME`: `/^[a-z][a-z0-9-]{1,40}$/` -/
def isProjectName : Text → Bool
  | [] => false
  | c :: cs => c.isLower && cs.all isKeyChar && decide (1 ≤ cs.length ∧ cs.length ≤ 40)

/-! ## Projects -/

structure ScmRepositoryIdentity where
  provider : ScmKind
  repositoryId : Text
  owner : Text
  name : Text
  fullName : Text
  defaultBranch : Text
  repoUrl : Text
  deriving DecidableEq

/-- A repository that is created or imported. Its name has been checked; an owner at either SCM
begins with a letter or a digit and has at most 40 characters. -/
structure NewRepository extends ScmRepositoryIdentity where
  name_valid : isProjectName name = true
  owner_head : ∃ c cs, owner = c :: cs ∧ isAlnum c.toLower = true
  owner_length : owner.length ≤ 40

structure Project where
  id : Nat
  workspaceId : Nat
  name : Text
  scmProvider : ScmKind
  scmRepositoryId : Option Text
  scmOwner : Text
  scmRepositoryName : Text
  scmFullName : Text
  scmDefaultBranch : Text
  repoUrl : Option Text
  /-- Null only on a row of an older image. -/
  deploymentKey : Option Text
  deriving DecidableEq

def Project.slug (p : Project) : Text := deploymentSlug p.scmOwner p.scmRepositoryName

def Project.storedKey (p : Project) : Option Text := p.deploymentKey.filter fun key => !key.isEmpty

def workloadKey (p : Project) : Text := p.storedKey.getD p.slug

structure Database where
  projects : List Project
  nextId : Nat

namespace Database

variable (db : Database)

def allocateDeploymentKey (repository : ScmRepositoryIdentity) (token : Text) : Text :=
  let key := deploymentSlug repository.owner repository.name
  if db.projects.any (·.deploymentKey == some key) then
    key ++ '-' :: 'r' :: keySuffix repository.repositoryId token
  else key

/-- The unique constraints. -/
def conflicts (p : Project) : Bool :=
  db.projects.any fun q => q.id != p.id &&
    (q.workspaceId == p.workspaceId && q.name == p.name ||
      q.scmProvider == p.scmProvider && q.scmRepositoryId.isSome &&
        q.scmRepositoryId == p.scmRepositoryId)

/-- The transaction of `createInternal` and `importExisting`. -/
def create (workspaceId : Nat) (repository : ScmRepositoryIdentity) (token : Text) : Database :=
  let p : Project :=
    { id := db.nextId
      workspaceId := workspaceId
      name := repository.name
      scmProvider := repository.provider
      scmRepositoryId := some repository.repositoryId
      scmOwner := repository.owner
      scmRepositoryName := repository.name
      scmFullName := repository.fullName
      scmDefaultBranch := repository.defaultBranch
      repoUrl := some repository.repoUrl
      deploymentKey := some (db.allocateDeploymentKey repository token) }
  if db.conflicts p then db else { projects := p :: db.projects, nextId := db.nextId + 1 }

/-- The row that `ProjectRepositoryIdentity.apply` writes. -/
def renamed (p : Project) (current : ScmRepositoryIdentity) : Project :=
  let follows := (p.scmOwner != current.owner || p.scmRepositoryName != current.name) &&
    p.name == p.scmRepositoryName && isProjectName current.name &&
      !db.projects.any fun q => q.workspaceId == p.workspaceId && q.name == current.name && q.id != p.id
  { p with
    name := if follows then current.name else p.name
    scmRepositoryId := some current.repositoryId
    scmOwner := current.owner
    scmRepositoryName := current.name
    scmFullName := current.fullName
    scmDefaultBranch := current.defaultBranch
    repoUrl := some current.repoUrl
    deploymentKey := some (workloadKey p) }

/-- The coordinates that the row has are those of the repository. -/
def isCurrent (p : Project) (current : ScmRepositoryIdentity) : Bool :=
  p.scmOwner == current.owner && p.scmRepositoryName == current.name &&
    p.scmRepositoryId == some current.repositoryId && p.scmFullName == current.fullName &&
      p.scmDefaultBranch == current.defaultBranch && p.repoUrl == some current.repoUrl

/-- `ProjectRepositoryIdentity.apply` -/
def apply (projectId : Nat) (current : ScmRepositoryIdentity) : Database :=
  match db.projects.find? (·.id == projectId) with
  | none => db
  | some p =>
    if p.scmProvider != current.provider then db
    else if (p.scmRepositoryId.filter fun id => !id.isEmpty).any (· != current.repositoryId) then db
    else if isCurrent p current || db.conflicts (db.renamed p current) then db
    else { db with projects := db.projects.map fun q =>
      if q.id = projectId then db.renamed p current else q }

end Database

inductive Event where
  /-- A project is created or imported; the transaction can be rolled back for another reason. -/
  | created (workspaceId : Nat) (repository : NewRepository) (token : Text) (committed : Bool)
  | renamed (projectId : Nat) (current : ScmRepositoryIdentity)
  | deleted (projectId : Nat)

namespace Database

def next (db : Database) : Event → Database
  | .created workspaceId repository token committed =>
    if committed then db.create workspaceId repository.toScmRepositoryIdentity token else db
  | .renamed projectId current => db.apply projectId current
  | .deleted projectId => { db with projects := db.projects.filter (·.id != projectId) }

def run (db : Database) (events : List Event) : Database := events.foldl next db

end Database

/-! ## The form of a key -/

section Forms

variable {text : Text} {c : Char}

theorem length_replaceRuns (text : Text) (inRun : Bool) :
    (replaceRuns inRun text).length ≤ text.length := by
  induction text generalizing inRun with
  | nil => exact Nat.le_refl 0
  | cons c cs ih =>
    unfold replaceRuns
    split
    · exact Nat.succ_le_succ (ih false)
    · split
      · exact Nat.le_succ_of_le (ih true)
      · exact Nat.succ_le_succ (ih true)

theorem keyChar_replaceRuns {inRun : Bool} (h : c ∈ replaceRuns inRun text) : isKeyChar c = true := by
  induction text generalizing inRun with
  | nil => cases h
  | cons d cs ih =>
    unfold replaceRuns at h
    split at h
    · rename_i hd
      rcases List.mem_cons.mp h with rfl | h
      · exact hd
      · exact ih h
    · split at h
      · exact ih h
      · rcases List.mem_cons.mp h with rfl | h
        · decide
        · exact ih h

theorem mem_trimDashes (h : c ∈ trimDashes text) : c ∈ text := by
  have hmem := (List.dropWhile_sublist _).subset (List.mem_reverse.mp h)
  exact (List.dropWhile_sublist _).subset (List.mem_reverse.mp hmem)

theorem length_trimDashes (text : Text) : (trimDashes text).length ≤ text.length := by
  unfold trimDashes
  rw [List.length_reverse]
  refine (List.dropWhile_sublist _).length_le.trans ?_
  rw [List.length_reverse]
  exact (List.dropWhile_sublist _).length_le

theorem trimDashes_cons (h : c ≠ '-') : ∃ cs, trimDashes (c :: text) = c :: cs := by
  have hfalse : (c == '-') = false := beq_eq_false_iff_ne.mpr h
  unfold trimDashes
  rw [List.dropWhile_cons_of_neg (by rw [hfalse]; exact Bool.false_ne_true), List.reverse_cons]
  generalize text.reverse = l
  induction l with
  | nil =>
    refine ⟨[], ?_⟩
    rw [List.nil_append, List.dropWhile_cons_of_neg (by rw [hfalse]; exact Bool.false_ne_true)]
    rfl
  | cons d l ih =>
    rw [List.cons_append]
    by_cases hd : (d == '-') = true
    · rw [List.dropWhile_cons, if_pos hd]
      exact ih
    · rw [List.dropWhile_cons, if_neg hd, List.reverse_cons, List.reverse_append]
      exact ⟨l.reverse ++ [d], rfl⟩

theorem isKeyChar_of_alnum (h : isAlnum c = true) : isKeyChar c = true := by
  rw [isKeyChar, h]
  rfl

theorem length_projectName (h : isProjectName text = true) : text.length ≤ 41 := by
  cases text with
  | nil => exact Nat.zero_le _
  | cons c cs =>
    simp only [isProjectName, Bool.and_eq_true, decide_eq_true_eq] at h
    exact Nat.succ_le_succ h.2.2

theorem deploymentSlug_form (r : NewRepository) : ∃ c cs, deploymentSlug r.owner r.name = c :: cs ∧
    isAlnum c = true ∧ (∀ d ∈ cs, isKeyChar d = true) ∧ cs.length ≤ 81 := by
  obtain ⟨o, os, howner, halnum⟩ := r.owner_head
  have hne : o.toLower ≠ '-' := by
    intro hdash
    rw [hdash] at halnum
    exact absurd halnum (by decide)
  have hslug : deploymentSlug r.owner r.name =
      trimDashes (o.toLower :: replaceRuns false ((os ++ '-' :: r.name).map Char.toLower)) := by
    rw [deploymentSlug, howner, List.cons_append, List.map_cons, replaceRuns,
      if_pos (isKeyChar_of_alnum halnum)]
  obtain ⟨cs, hcs⟩ := @trimDashes_cons (replaceRuns false
    ((os ++ '-' :: r.name).map Char.toLower)) _ hne
  refine ⟨o.toLower, cs, hslug.trans hcs, halnum, fun d hd => ?_, ?_⟩
  · have hmem : d ∈ o.toLower :: replaceRuns false ((os ++ '-' :: r.name).map Char.toLower) :=
      mem_trimDashes (hcs ▸ List.mem_cons_of_mem _ hd)
    rcases List.mem_cons.mp hmem with rfl | hmem
    · exact isKeyChar_of_alnum halnum
    · exact keyChar_replaceRuns hmem
  · have htrim := length_trimDashes
      (o.toLower :: replaceRuns false ((os ++ '-' :: r.name).map Char.toLower))
    have hruns := length_replaceRuns ((os ++ '-' :: r.name).map Char.toLower) false
    have howned := r.owner_length
    have hnamed := length_projectName r.name_valid
    rw [howner] at howned
    rw [hcs] at htrim
    simp only [List.length_cons, List.length_map, List.length_append] at htrim hruns howned
    omega

theorem keySuffix_form (repositoryId token : Text) : (keySuffix repositoryId token).length ≤ 8 ∧
    ∀ d ∈ keySuffix repositoryId token, isAlnum d = true := by
  unfold keySuffix
  dsimp only
  split
  · refine ⟨List.length_take_le _ _, fun d hd => ?_⟩
    exact (List.mem_filter.mp (List.mem_of_mem_take hd)).2
  · refine ⟨?_, fun d hd => (List.mem_filter.mp (List.mem_of_mem_drop hd)).2⟩
    rw [List.length_drop]
    omega

theorem isSafeId_allocate (db : Database) (r : NewRepository) (token : Text) :
    isSafeId (db.allocateDeploymentKey r.toScmRepositoryIdentity token) = true := by
  obtain ⟨c, cs, hslug, hc, hcs, hlength⟩ := deploymentSlug_form r
  obtain ⟨hsuffix, hchars⟩ := keySuffix_form r.repositoryId token
  have hsafe : ∀ d, isKeyChar d = true → (isKeyChar d || d == '.' || d == '_') = true := by
    intro d hd
    rw [hd]
    rfl
  unfold Database.allocateDeploymentKey
  dsimp only
  rw [hslug]
  split
  · rw [List.cons_append, isSafeId, hc]
    simp only [Bool.true_and, Bool.and_eq_true, decide_eq_true_eq, List.all_eq_true]
    refine ⟨fun d hd => hsafe d ?_, ?_⟩
    · rcases List.mem_append.mp hd with hd | hd
      · exact hcs d hd
      · rcases List.mem_cons.mp hd with rfl | hd
        · decide
        · rcases List.mem_cons.mp hd with rfl | hd
          · decide
          · exact isKeyChar_of_alnum (hchars d hd)
    · simp only [List.length_append, List.length_cons]
      omega
  · rw [isSafeId, hc]
    simp only [Bool.true_and, Bool.and_eq_true, decide_eq_true_eq, List.all_eq_true]
    exact ⟨fun d hd => hsafe d (hcs d hd), by omega⟩

end Forms

/-! ## Keys that are not unique -/

namespace Database

variable (db : Database) (r : ScmRepositoryIdentity) (token : Text)

/-- No stored project has the key, or derives it. -/
def Fresh (key : Text) : Prop :=
  ∀ p ∈ db.projects, p.deploymentKey ≠ some key ∧ (p.deploymentKey = none → p.slug ≠ key)

/-- A project has the key that is derived for the repository. -/
def SlugStored : Prop :=
  ∃ p ∈ db.projects, p.deploymentKey = some (deploymentSlug r.owner r.name)

/-- The derived key is not stored, and no row of an older image derives it, or it is stored, and no
project has or derives the one with the suffix. -/
def Unambiguous : Prop :=
  (¬ db.SlugStored r ∧ ∀ p ∈ db.projects, p.deploymentKey = none →
      p.slug ≠ deploymentSlug r.owner r.name) ∨
    (db.SlugStored r ∧ ∀ p ∈ db.projects, p.deploymentKey.getD p.slug ≠
      deploymentSlug r.owner r.name ++ '-' :: 'r' :: keySuffix r.repositoryId token)

theorem allocate_stored (h : db.SlugStored r) : db.allocateDeploymentKey r token =
    deploymentSlug r.owner r.name ++ '-' :: 'r' :: keySuffix r.repositoryId token := by
  obtain ⟨p, hp, hkey⟩ := h
  unfold allocateDeploymentKey
  refine if_pos (List.any_eq_true.mpr ⟨p, hp, ?_⟩)
  rw [hkey]
  exact beq_self_eq_true _

theorem allocate_free (h : ¬ db.SlugStored r) :
    db.allocateDeploymentKey r token = deploymentSlug r.owner r.name := by
  unfold allocateDeploymentKey
  refine if_neg fun hany => h ?_
  obtain ⟨p, hp, hkey⟩ := List.any_eq_true.mp hany
  exact ⟨p, hp, beq_iff_eq.mp hkey⟩

theorem fresh_iff {key : Text} :
    db.Fresh key ↔ ∀ p ∈ db.projects, p.deploymentKey.getD p.slug ≠ key := by
  refine forall₂_congr fun p _ => ?_
  cases hkey : p.deploymentKey with
  | none => simp
  | some stored => simp

theorem fresh_allocate : db.Fresh (db.allocateDeploymentKey r token) ↔ db.Unambiguous r token := by
  by_cases hstored : db.SlugStored r
  · rw [db.allocate_stored r token hstored, fresh_iff]
    constructor
    · exact fun h => .inr ⟨hstored, h⟩
    · rintro (⟨hfree, -⟩ | ⟨-, h⟩)
      · exact absurd hstored hfree
      · exact h
  · rw [db.allocate_free r token hstored]
    constructor
    · exact fun h => .inl ⟨hstored, fun p hp => (h p hp).2⟩
    · rintro (⟨-, h⟩ | ⟨hyes, -⟩)
      · exact fun p hp => ⟨fun hkey => hstored ⟨p, hp, hkey⟩, h p hp⟩
      · exact absurd hyes hstored

end Database

theorem deployment_keys_iff (db : Database) (events : List Event) :
    (∀ pre workspaceId r token committed post,
      events = pre ++ .created workspaceId r token committed :: post →
        let key := (db.run pre).allocateDeploymentKey r.toScmRepositoryIdentity token
        (db.run pre).Fresh key ∧ isSafeId key = true) ↔
      ∀ pre workspaceId r token committed post,
        events = pre ++ .created workspaceId r token committed :: post →
          (db.run pre).Unambiguous r.toScmRepositoryIdentity token := by
  constructor
  · intro h pre workspaceId r token committed post heq
    exact (Database.fresh_allocate _ _ _).1 (h pre workspaceId r token committed post heq).1
  · intro h pre workspaceId r token committed post heq
    exact ⟨(Database.fresh_allocate _ _ _).2 (h pre workspaceId r token committed post heq),
      isSafeId_allocate _ r token⟩

def repositoryOf (owner name id : Text) (hname : isProjectName name = true)
    (hhead : ∃ c cs, owner = c :: cs ∧ isAlnum c.toLower = true) (hlength : owner.length ≤ 40) :
    NewRepository where
  provider := .gitea
  repositoryId := id
  owner := owner
  name := name
  fullName := owner ++ '/' :: name
  defaultBranch := ['m', 'a', 'i', 'n']
  repoUrl := owner ++ '/' :: name
  name_valid := hname
  owner_head := hhead
  owner_length := hlength

def dashed : NewRepository :=
  repositoryOf ['a'] ['b', '-', 'c', 'c'] ['5'] (by decide) ⟨'a', [], rfl, by decide⟩ (by decide)

def suffixed : NewRepository :=
  repositoryOf ['a'] ['b', '-', 'c', 'c', '-', 'r', '7'] ['6'] (by decide) ⟨'a', [], rfl, by decide⟩
    (by decide)

/-- The derived key is that of `dashed`, and with the suffix that of `suffixed`. -/
def shifted : NewRepository :=
  repositoryOf ['a', '-', 'b'] ['c', 'c'] ['7'] (by decide) ⟨'a', ['-', 'b'], rfl, by decide⟩
    (by decide)

theorem deployment_keys_collide : ¬ ∀ (db : Database) (events : List Event)
    (pre : List Event) (workspaceId : Nat) (r : NewRepository) (token : Text) (committed : Bool)
    (post : List Event), events = pre ++ .created workspaceId r token committed :: post →
      let key := (db.run pre).allocateDeploymentKey r.toScmRepositoryIdentity token
      (db.run pre).Fresh key ∧ isSafeId key = true := by
  intro h
  have hfresh := (h ⟨[], 0⟩ [.created 0 dashed [] true, .created 1 suffixed [] true,
    .created 2 shifted [] true] [.created 0 dashed [] true, .created 1 suffixed [] true]
    2 shifted [] true [] rfl).1
  refine absurd hfresh ?_
  unfold Database.Fresh
  decide

end InitPad.Projects
