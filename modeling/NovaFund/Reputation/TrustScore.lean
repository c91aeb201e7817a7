import NovaFund.Risk.Numeric

/-!
# The creator trust score

`calculateTrustScore(prisma, creatorId)` counts the creator's COMPLETED projects, the
milestones of the creator's projects approved on time and those rejected, and the ratio of
the funds the projects hold to their goals, and clamps the weighted sum to `[0, 1000]`;
`ReputationService.updateTrustScore` stores the result on the user (`part_001`,
`part_002`). The database calls are taken to succeed, and a milestone row carries the
creator of its project, which is what the `project: { creatorId }` filter reads. Goals and
funds are Prisma decimals, here rationals; `Math.round` is `jsRound`.

A milestone counts as on time when its completion date is no later than its creation
date, which a milestone completed after it was created never is: approving such a
milestone leaves the score as it was. Completing a project adds 100 before the clamp.
More generally the score rewards a better record row by row: more funds against the same
goals, more completed projects and on-time approvals, fewer rejections never lower it.
-/

namespace NovaFund.Reputation

open NovaFund.Risk (jsRound)

/-- A `project` row, the fields `calculateTrustScore` reads. -/
structure ProjectRow where
  creatorId : String
  status : String
  goal : ℚ
  currentFunds : ℚ
  deriving DecidableEq, Repr

/-- A `milestone` row, with the `creatorId` of its project. -/
structure MilestoneRow where
  creatorId : String
  status : String
  /-- `createdAt`, in milliseconds since the epoch. -/
  createdAt : ℕ
  completionDate : Option ℕ
  deriving DecidableEq, Repr

/-- The tables `calculateTrustScore` reads. -/
structure ReputationDb where
  projects : List ProjectRow
  milestones : List MilestoneRow
  deriving DecidableEq, Repr

/-- `m.status === 'APPROVED' && m.completionDate && m.completionDate <= m.createdAt`. -/
def MilestoneRow.completedOnTime (m : MilestoneRow) : Bool :=
  m.status = "APPROVED" &&
    match m.completionDate with
    | some d => decide (d ≤ m.createdAt)
    | none => false

/-- The `score` of `calculateTrustScore` before its clamp. -/
def rawTrustScore (db : ReputationDb) (creatorId : String) : ℤ :=
  let successfulProjects :=
    (db.projects.filter fun p => p.creatorId = creatorId ∧ p.status = "COMPLETED").length
  let milestones := db.milestones.filter (·.creatorId = creatorId)
  let completedOnTime := (milestones.filter (·.completedOnTime)).length
  let failedMilestones := (milestones.filter (·.status = "REJECTED")).length
  let projects := db.projects.filter (·.creatorId = creatorId)
  let totalRaised := (projects.map (·.goal)).sum
  let totalDistributed := (projects.map (·.currentFunds)).sum
  500 + successfulProjects * 100 + completedOnTime * 50 - failedMilestones * 75 +
    if 0 < totalRaised then jsRound (totalDistributed / totalRaised * 200) else 0

/-- `calculateTrustScore(prisma, creatorId)`. -/
def calculateTrustScore (db : ReputationDb) (creatorId : String) : ℤ :=
  max 0 (min 1000 (rawTrustScore db creatorId))

/-- A user row, the field `updateTrustScore` writes. -/
structure UserRow where
  id : String
  trustScore : ℤ
  deriving DecidableEq, Repr

/-- `ReputationService.updateTrustScore(userId)`: the score, and the users with it
stored on `userId`. -/
def updateTrustScore (db : ReputationDb) (users : List UserRow) (userId : String) :
    ℤ × List UserRow :=
  let score := calculateTrustScore db userId
  (score, users.map fun u => if u.id = userId then { u with trustScore := score } else u)

/-! ## What the score reads -/

theorem calculateTrustScore_mem (db : ReputationDb) (creatorId : String) :
    0 ≤ calculateTrustScore db creatorId ∧ calculateTrustScore db creatorId ≤ 1000 :=
  ⟨le_max_left _ _, max_le (by norm_num) (min_le_left _ _)⟩

/-- The stored score is the computed one. -/
theorem updateTrustScore_stores (db : ReputationDb) (users : List UserRow) (userId : String) :
    ∀ u ∈ (updateTrustScore db users userId).2, u.id = userId →
      u.trustScore = calculateTrustScore db userId := by
  intro u hu hid
  obtain ⟨v, -, rfl⟩ := List.mem_map.mp hu
  by_cases hv : v.id = userId
  · simp [updateTrustScore, hv]
  · simp [hv] at hid

/-- Approving, with a completion date after its creation date, a milestone that was
neither on time nor rejected leaves every creator's score as it was. -/
theorem late_approval_leaves_trust_score (db : ReputationDb)
    (before after : List MilestoneRow) (m : MilestoneRow) {d : ℕ}
    (hrejected : m.status ≠ "REJECTED") (honTime : m.completedOnTime = false)
    (hlate : m.createdAt < d) (creatorId : String) :
    calculateTrustScore { db with milestones :=
        before ++ { m with status := "APPROVED", completionDate := some d } :: after }
        creatorId =
      calculateTrustScore { db with milestones := before ++ m :: after } creatorId := by
  have happroved : ({ m with status := "APPROVED", completionDate := some d } :
      MilestoneRow).completedOnTime = false := by
    simp [MilestoneRow.completedOnTime, Nat.not_le.mpr hlate]
  by_cases hc : m.creatorId = creatorId
  · subst hc
    simp +decide only [calculateTrustScore, rawTrustScore, List.filter_append,
      List.filter_cons, hrejected, honTime, happroved, decide_True, decide_False, if_true,
      if_false, Bool.false_eq_true]
  · simp only [calculateTrustScore, rawTrustScore, List.filter_append, List.filter_cons, hc,
      decide_False, if_false, Bool.false_eq_true]

/-- Completing one of a creator's projects adds 100 to the score before the clamp, so it
never lowers the score and raises it by 100 unless the clamp cuts it. -/
theorem completing_project_adds_hundred (db : ReputationDb) (before after : List ProjectRow)
    (p : ProjectRow) (hp : p.status ≠ "COMPLETED") :
    calculateTrustScore { db with projects :=
        before ++ { p with status := "COMPLETED" } :: after } p.creatorId =
      max 0 (min 1000 (rawTrustScore { db with projects := before ++ p :: after }
        p.creatorId + 100)) := by
  simp only [calculateTrustScore, rawTrustScore, List.filter_append, List.filter_cons,
    decide_True, true_and, hp, decide_False, if_true, if_false, List.map_append,
    List.map_cons, List.length_append, List.length_cons, Bool.false_eq_true]
  push_cast
  congr 2
  ring

/-! ## A creator with one project -/

/-- A creator's only project, half funded. -/
def pilotProject : ProjectRow := ⟨"c1", "ACTIVE", 1000, 500⟩

/-- The project's milestone, created at time 1000 and not yet decided. -/
def pilotMilestone : MilestoneRow := ⟨"c1", "PENDING", 1000, none⟩

/-- The half-funded project's bonus, `Math.round(0.5 * 200)`, once it is normalised. -/
theorem jsRound_hundred : jsRound (100 : ℚ) = 100 := by
  exact_mod_cast NovaFund.Risk.jsRound_intCast (α := ℚ) 100

/-- Approving the milestone at time 2000 leaves the score at 600: 500, plus 100 for the
half-funded project. -/
theorem late_approval_leaves_trust_score_pilot :
    calculateTrustScore ⟨[pilotProject], [] ++
        { pilotMilestone with status := "APPROVED", completionDate := some 2000 } :: []⟩ "c1" =
      600 :=
  (late_approval_leaves_trust_score ⟨[pilotProject], []⟩ [] [] pilotMilestone (by decide)
    (by decide) (by decide) "c1").trans (by
      simp +decide only [calculateTrustScore, rawTrustScore, pilotProject, pilotMilestone,
        List.filter, MilestoneRow.completedOnTime]
      norm_num [jsRound_hundred])

/-- Completing the project adds 100: the score goes from 600 to 700. -/
theorem completing_project_adds_hundred_pilot :
    calculateTrustScore ⟨[] ++ { pilotProject with status := "COMPLETED" } :: [],
        [pilotMilestone]⟩ "c1" = 700 :=
  (completing_project_adds_hundred ⟨[], [pilotMilestone]⟩ [] [] pilotProject
    (by decide)).trans (by
      simp +decide only [rawTrustScore, pilotProject, pilotMilestone, List.filter,
        MilestoneRow.completedOnTime]
      norm_num [jsRound_hundred])

/-! ## Better records -/

/-- `p'` is at least as good a project row as `p`: the same creator and goal, at least the
funds, and completed if `p` was. -/
structure ProjectRow.AtLeastAsGood (p p' : ProjectRow) : Prop where
  creatorId : p'.creatorId = p.creatorId
  goal : p'.goal = p.goal
  currentFunds : p.currentFunds ≤ p'.currentFunds
  completed : p.status = "COMPLETED" → p'.status = "COMPLETED"

/-- `m'` is at least as good a milestone row as `m`: the same creator, on time if `m` was,
and rejected only if `m` was. -/
structure MilestoneRow.AtLeastAsGood (m m' : MilestoneRow) : Prop where
  creatorId : m'.creatorId = m.creatorId
  onTime : m.completedOnTime = true → m'.completedOnTime = true
  rejected : m'.status = "REJECTED" → m.status = "REJECTED"

/-- `db'` is at least as good a record as `db`, row by row. -/
structure ReputationDb.AtLeastAsGood (db db' : ReputationDb) : Prop where
  projects : List.Forall₂ ProjectRow.AtLeastAsGood db.projects db'.projects
  milestones : List.Forall₂ MilestoneRow.AtLeastAsGood db.milestones db'.milestones

/-- Rows related one to one keep a filter's count from falling when the filter on the left
implies the one on the right. -/
theorem length_filter_le_of_forall₂ {β γ : Type} {R : β → γ → Prop} {l : List β}
    {l' : List γ} (h : List.Forall₂ R l l') {f : β → Bool} {g : γ → Bool}
    (hfg : ∀ a b, R a b → f a = true → g b = true) :
    (l.filter f).length ≤ (l'.filter g).length := by
  induction h with
  | nil => exact le_rfl
  | @cons a b l l' hab _ ih =>
    by_cases ha : f a
    · rw [List.filter_cons_of_pos ha, List.filter_cons_of_pos (hfg a b hab ha)]
      exact Nat.succ_le_succ ih
    · rw [List.filter_cons_of_neg ha]
      exact ih.trans ((List.sublist_cons_self b l').filter g).length_le

/-- The creator's projects in a better record hold the same goals and at least the funds. -/
theorem projects_sums_le {db db' : ReputationDb} (h : db.AtLeastAsGood db') (c : String) :
    ((db'.projects.filter (·.creatorId = c)).map (·.goal)).sum =
        ((db.projects.filter (·.creatorId = c)).map (·.goal)).sum ∧
      ((db.projects.filter (·.creatorId = c)).map (·.currentFunds)).sum ≤
        ((db'.projects.filter (·.creatorId = c)).map (·.currentFunds)).sum := by
  have hf := List.rel_filter (p := fun p : ProjectRow => decide (p.creatorId = c))
    (q := fun p : ProjectRow => decide (p.creatorId = c))
    (fun a b hab => by simp only [decide_eq_true_eq, hab.creatorId]) h.projects
  refine ⟨le_antisymm ?_ ?_, ?_⟩ <;> apply List.Forall₂.sum_le_sum
  · exact List.forall₂_map_left_iff.mpr (List.forall₂_map_right_iff.mpr
      (hf.flip.imp fun _ _ hab => hab.goal.le))
  · exact List.forall₂_map_left_iff.mpr (List.forall₂_map_right_iff.mpr
      (hf.imp fun _ _ hab => hab.goal.ge))
  · exact List.forall₂_map_left_iff.mpr (List.forall₂_map_right_iff.mpr
      (hf.imp fun _ _ hab => hab.currentFunds))

/-- The funding bonus grows with the funds held against the same goals. -/
theorem fundingBonus_mono (raised : ℚ) {distributed distributed' : ℚ}
    (h : distributed ≤ distributed') :
    (if 0 < raised then jsRound (distributed / raised * 200) else 0) ≤
      if 0 < raised then jsRound (distributed' / raised * 200) else 0 := by
  split_ifs with hpos
  · exact NovaFund.Risk.jsRound_mono (mul_le_mul_of_nonneg_right
      (div_le_div_of_nonneg_right h hpos.le) (by norm_num))
  · exact le_rfl

/-- The trust score rewards a better record: for every pair of databases where the second
holds, row for row, projects with the same creators and goals and at least the funds,
completed wherever the first's are, and milestones on time wherever the first's are and
rejected only where the first's are, every creator's score is at least as high in the
second. -/
theorem trust_score_rewards_better_records {db db' : ReputationDb} (h : db.AtLeastAsGood db')
    (creatorId : String) :
    calculateTrustScore db creatorId ≤ calculateTrustScore db' creatorId := by
  have hsucc := length_filter_le_of_forall₂ h.projects
    (f := fun p => decide (p.creatorId = creatorId ∧ p.status = "COMPLETED"))
    (g := fun p => decide (p.creatorId = creatorId ∧ p.status = "COMPLETED"))
    fun a b hab ha => by
      simp only [decide_eq_true_eq, hab.creatorId] at ha ⊢
      exact ⟨ha.1, hab.completed ha.2⟩
  have honTime := length_filter_le_of_forall₂ h.milestones
    (f := fun m => m.completedOnTime && decide (m.creatorId = creatorId))
    (g := fun m => m.completedOnTime && decide (m.creatorId = creatorId))
    fun a b hab ha => by
      simp only [Bool.and_eq_true, decide_eq_true_eq, hab.creatorId] at ha ⊢
      exact ⟨hab.onTime ha.1, ha.2⟩
  have hfailed := length_filter_le_of_forall₂ h.milestones.flip
    (f := fun m => decide (m.status = "REJECTED") && decide (m.creatorId = creatorId))
    (g := fun m => decide (m.status = "REJECTED") && decide (m.creatorId = creatorId))
    fun a b hab ha => by
      simp only [Bool.and_eq_true, decide_eq_true_eq] at ha ⊢
      exact ⟨hab.rejected ha.1, hab.creatorId ▸ ha.2⟩
  obtain ⟨hgoal, hfunds⟩ := projects_sums_le h creatorId
  have hbonus := fundingBonus_mono
    (((db.projects.filter (·.creatorId = creatorId)).map (·.goal)).sum) hfunds
  unfold calculateTrustScore rawTrustScore
  refine max_le_max le_rfl (min_le_min le_rfl ?_)
  simp only [List.filter_filter, hgoal]
  omega

/-- The pilot creator's record after the project raised 900 and the milestone was approved
on time. -/
def fundedDb : ReputationDb :=
  ⟨[{ pilotProject with currentFunds := 900 }],
    [{ pilotMilestone with status := "APPROVED", completionDate := some 900 }]⟩

/-- Raising the funds and approving the milestone on time does not lower the pilot
creator's score. -/
theorem trust_score_rewards_better_records_funded :
    ReputationDb.AtLeastAsGood ⟨[pilotProject], [pilotMilestone]⟩ fundedDb ∧
      calculateTrustScore ⟨[pilotProject], [pilotMilestone]⟩ "c1" ≤
        calculateTrustScore fundedDb "c1" :=
  have h : ReputationDb.AtLeastAsGood ⟨[pilotProject], [pilotMilestone]⟩ fundedDb :=
    ⟨.cons ⟨rfl, rfl, by norm_num [pilotProject], fun h => absurd h (by decide)⟩ .nil,
      .cons ⟨rfl, fun h => absurd h (by decide), fun h => absurd h (by decide)⟩ .nil⟩
  ⟨h, trust_score_rewards_better_records h "c1"⟩

end NovaFund.Reputation
