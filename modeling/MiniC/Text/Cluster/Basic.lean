import MiniC.Text.Cluster.Table

/-!
# Clusters

A cluster is what a reader takes for one character: a letter with its marks, a syllable of
Hangul, a conjunct of consonants, a picture joined from several, a flag. A text falls into
clusters in one way, and the clusters together are the text (`clusters_flatten`).

Whether a character joins the cluster before it depends on the class of the character before it
and on a little of what came earlier in the cluster, which is kept in a `Tail`.
-/

namespace MiniC

namespace Cluster

/-- The part a character plays in a cluster. -/
inductive Role where
  | carriageReturn | lineFeed | control
  | extender | joiner | spacing | prepender
  | leading | vowel | trailing | openSyllable | closedSyllable
  | flag | pictograph | other
deriving DecidableEq, Inhabited

/-- The vowels of Hangul and of Kirat Rai. -/
def vowels : CharSet :=
  ⟨[(0x1160, 0x11a7), (0xd7b0, 0xd7c6), (0x16d63, 0x16d63), (0x16d67, 0x16d6a)]⟩

/-- The first consonants of Hangul syllables. -/
def leadings : CharSet := ⟨[(0x1100, 0x115f), (0xa960, 0xa97c)]⟩

/-- The last consonants of Hangul syllables. -/
def trailings : CharSet := ⟨[(0x11a8, 0x11ff), (0xd7cb, 0xd7fb)]⟩

def isSyllable (c : Char) : Bool := 0xac00 ≤ c.toNat && c.toNat ≤ 0xd7a3

/-- The letters that flags are spelled with. -/
def isFlagLetter (c : Char) : Bool := 0x1f1e6 ≤ c.toNat && c.toNat ≤ 0x1f1ff

/-- The role of a character. Of the whole syllables of Hangul, every twenty-eighth has no last
consonant. -/
def roleOf (c : Char) : Role :=
  if c = '\r' then .carriageReturn
  else if c = '\n' then .lineFeed
  else if c = '\u200d' then .joiner
  else if controls.contains c then .control
  else if extenders.contains c then .extender
  else if spacingMarks.contains c then .spacing
  else if prependers.contains c then .prepender
  else if leadings.contains c then .leading
  else if vowels.contains c then .vowel
  else if trailings.contains c then .trailing
  else if isSyllable c then
    if (c.toNat - 0xac00) % 28 = 0 then .openSyllable else .closedSyllable
  else if isFlagLetter c then .flag
  else if pictographs.contains c then .pictograph
  else .other

/-- What of a cluster decides whether a character joins it. -/
structure Tail where
  /-- The role of its last character. -/
  last : Role
  /-- After a consonant and marks: whether one of the marks is a linker. -/
  conjunct : Option Bool
  /-- After a picture and marks: whether a joiner ends them. -/
  picture : Option Bool
  /-- Whether a flag lacks its second letter. -/
  halfFlag : Bool
deriving DecidableEq, Inhabited

namespace Tail

/-- The tail of a cluster of one character. -/
def start (c : Char) : Tail :=
  let role := roleOf c
  { last := role
    conjunct := if consonants.contains c then some false else none
    picture := if role = .pictograph then some false else none
    halfFlag := role = .flag }

/-- Whether a character of a role joins what is before it by the two roles alone. -/
def joinsRole (last next : Role) : Bool :=
  match last, next with
  | .carriageReturn, .lineFeed => true
  | .carriageReturn, _ | .lineFeed, _ | .control, _ => false
  | _, .carriageReturn | _, .lineFeed | _, .control => false
  | _, .extender | _, .joiner | _, .spacing => true
  | .prepender, _ => true
  | .leading, .leading | .leading, .vowel | .leading, .openSyllable
  | .leading, .closedSyllable => true
  | .openSyllable, .vowel | .openSyllable, .trailing | .vowel, .vowel | .vowel, .trailing => true
  | .closedSyllable, .trailing | .trailing, .trailing => true
  | _, _ => false

/-- Whether a character joins the cluster. Besides the roles, a linker joins a consonant, a joiner
joins a picture to a picture, and flag letters go in pairs. -/
def joins (t : Tail) (c : Char) : Bool :=
  let role := roleOf c
  joinsRole t.last role ||
    (t.conjunct = some true && consonants.contains c) ||
    (t.picture = some true && role = .pictograph) ||
    (t.halfFlag && role = .flag)

/-- The tail once a character has joined the cluster. -/
def push (t : Tail) (c : Char) : Tail :=
  match roleOf c with
  | .extender =>
    { t with
      last := .extender
      conjunct := if c = '\u200c' then none else t.conjunct.map (· || linkers.contains c)
      picture := if t.picture = some false then some false else none
      halfFlag := false }
  | .joiner =>
    { t with
      last := .joiner
      picture := if t.picture = some false then some true else none
      halfFlag := false }
  | .flag => { start c with halfFlag := !t.halfFlag }
  | _ => start c

/-- The tail after a character, whether it joins or not. -/
def next (t : Tail) (c : Char) : Tail := if t.joins c then t.push c else start c

end Tail

/-- The characters that go on with the cluster that has tail `t`, and the clusters after it. -/
def continueWith (t : Tail) : List Char → List Char × List (List Char)
  | [] => ([], [])
  | c :: cs =>
    let (first, rest) := continueWith (t.next c) cs
    if t.joins c then (c :: first, rest) else ([], (c :: first) :: rest)

end Cluster

/-- The clusters of a text. -/
def clusters : List Char → List (List Char)
  | [] => []
  | c :: cs =>
    let (first, rest) := Cluster.continueWith (.start c) cs
    (c :: first) :: rest

namespace Cluster

theorem continueWith_flatten (t : Tail) (cs : List Char) :
    (continueWith t cs).1 ++ (continueWith t cs).2.flatten = cs := by
  induction cs generalizing t with
  | nil => rfl
  | cons c cs ih =>
    have := ih (t.next c)
    by_cases h : t.joins c <;> simp [continueWith, h, this]

theorem ne_nil_of_mem_continueWith {t : Tail} {cs cluster : List Char}
    (h : cluster ∈ (continueWith t cs).2) : cluster ≠ [] := by
  induction cs generalizing t with
  | nil => simp [continueWith] at h
  | cons c cs ih =>
    by_cases hj : t.joins c
    · exact ih (by simpa [continueWith, hj] using h)
    · simp only [continueWith, hj, Bool.false_eq_true, if_false, List.mem_cons] at h
      rcases h with rfl | h
      · simp
      · exact ih h

end Cluster

/-- The clusters together are the text. -/
theorem clusters_flatten (cs : List Char) : (clusters cs).flatten = cs := by
  cases cs with
  | nil => rfl
  | cons c cs => simp [clusters, Cluster.continueWith_flatten]

theorem ne_nil_of_mem_clusters {cs cluster : List Char} (h : cluster ∈ clusters cs) :
    cluster ≠ [] := by
  cases cs with
  | nil => simp [clusters] at h
  | cons c cs =>
    rcases List.mem_cons.1 h with rfl | h
    · simp
    · exact Cluster.ne_nil_of_mem_continueWith h

end MiniC
