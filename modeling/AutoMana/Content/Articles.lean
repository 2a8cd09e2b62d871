import AutoMana.Ebay.PromoteSoldObs
import AutoMana.Relational.Dict
import AutoMana.Relational.Interleaving
import AutoMana.Relational.Names
import AutoMana.Relational.Regex
import Mathlib.Order.Interval.Finset.Nat

/-!
# Editorial articles

Admins create, edit, publish, and delete articles, and anyone reads the published ones by slug.
The slug is made of the title when an article is created, numbered until a free one is found, and
is never written again. A creation probes slug by slug before it inserts, and other requests get
in between.
-/

namespace AutoMana.Content

open Relational Interleaving

/-! ## Slugs -/

/-- What python decides of texts. -/
structure TextRules where
  lower : List Char → List Char
  isSpace : Char → Bool

/-- `[a-z0-9]` -/
def isSlugChar (c : Char) : Bool := ('a' ≤ c && c ≤ 'z') || ('0' ≤ c && c ≤ '9')

def slugify (rules : TextRules) (title : List Char) : List Char :=
  let s := Tokens.trim '-'
    ((Regex.some (.one fun c => !isSlugChar c)).sub (fun _ => ['-']) (rules.lower title))
  if s = [] then "article".toList else s

/-- `round(words / _WORDS_PER_MINUTE)`, and at least one. -/
def estimateReadMinutes (rules : TextRules) (bodyMarkdown : List Char) : Nat :=
  let words := (Tokens.split rules.isSpace bodyMarkdown).length
  max 1 (Ebay.roundHalfEven words 230).toNat

/-- The slugs that `_unique_slug` tries, from the first one on. -/
def candidate (base : List Char) (n : Nat) : List Char :=
  if n = 1 then base else base ++ '-' :: Nat.toDigits 10 n

/-! ## The table -/

abbrev ArticleId := String
abbrev UserId := String
abbrev Timestamp := Int

inductive Status where
  | draft
  | published
deriving DecidableEq, Repr

structure Article where
  slug : List Char
  title : String
  excerpt : String
  coverImageUrl : Option String
  bodyMarkdown : String
  status : Status
  tags : List String
  readMinutes : Nat
  authorId : Option UserId
  publishedAt : Option Timestamp
  createdAt : Timestamp
  updatedAt : Timestamp
deriving DecidableEq, Repr

/-- `content.article` -/
structure Articles where
  table : Table ArticleId Article
  /-- `slug TEXT NOT NULL UNIQUE` -/
  slug_unique : (table.rows.map (·.2.slug)).Nodup

inductive ArticleError where
  /-- `ArticleNotFoundError` -/
  | notFound (message : String)
  /-- `ArticleValidationError` -/
  | validation (message : String)
  /-- The words of a body that is null. -/
  | attributeError
  | uniqueViolation
  | notNullViolation
deriving DecidableEq, Repr

namespace Articles

def empty : Articles := ⟨.empty, List.nodup_nil⟩

def existsSlug (articles : Articles) (slug : List Char) : Bool :=
  articles.table.rows.any (·.2.slug = slug)

def getBySlug (articles : Articles) (slug : List Char) (publishedOnly : Bool) :
    Option (ArticleId × Article) :=
  articles.table.rows.find? fun row =>
    row.2.slug = slug && (!publishedOnly || row.2.status = .published)

/-- An `UPDATE` of one article, which does not write the slug. -/
def alter (articles : Articles) (articleId : ArticleId) (change : Article → Article)
    (hslug : ∀ article, (change article).slug = article.slug) : Articles where
  table := articles.table.mapValues fun id article =>
    if id = articleId then change article else article
  slug_unique := by
    have hsame : (articles.table.mapValues fun id article =>
        if id = articleId then change article else article).rows.map (·.2.slug) =
          articles.table.rows.map (·.2.slug) := by
      rw [Table.mapValues, List.map_map]
      apply List.map_congr_left
      intro row _
      by_cases hid : row.1 = articleId <;> simp [hid, hslug]
    rw [hsame]
    exact articles.slug_unique

def delete (articles : Articles) (articleId : ArticleId) : Articles where
  table := articles.table.deleteWhere fun id _ => id = articleId
  slug_unique := articles.slug_unique.sublist (List.filter_sublist.map _)

/-- An `INSERT`, which raises when the id or the slug is taken. -/
def insert? (articles : Articles) (articleId : ArticleId) (article : Article) :
    Option Articles :=
  if hfree : articles.table.get? articleId = none ∧
      article.slug ∉ articles.table.rows.map (·.2.slug) then
    some {
      table := articles.table.set articleId article
      slug_unique := by
        rw [Table.rows_set_of_new hfree.1, List.map_append]
        exact articles.slug_unique.append (List.nodup_singleton _)
          (List.disjoint_singleton.mpr hfree.2) }
  else none

end Articles

/-! ## The services -/

structure ArticleCreate where
  title : String
  excerpt : String
  bodyMarkdown : String
  coverImageUrl : Option String
  tags : List String
deriving DecidableEq, Repr

/-- A field of `model_dump(exclude_unset=True)`: unset, null, or a value. -/
abbrev Field (α : Type) := Option (Option α)

structure ArticleUpdate where
  title : Field String
  excerpt : Field String
  bodyMarkdown : Field String
  coverImageUrl : Field String
  tags : Field (List String)
deriving DecidableEq, Repr

inductive Reply where
  | article (article : Article)
  | deleted (articleId : ArticleId)
deriving DecidableEq, Repr

/-- The row of a creation, with the defaults of its columns. -/
def created (rules : TextRules) (payload : ArticleCreate) (authorId : UserId) (slug : List Char)
    (now : Timestamp) : Article where
  slug
  title := payload.title
  excerpt := payload.excerpt
  coverImageUrl := payload.coverImageUrl
  bodyMarkdown := payload.bodyMarkdown
  status := .draft
  tags := payload.tags
  readMinutes := estimateReadMinutes rules payload.bodyMarkdown.toList
  authorId := some authorId
  publishedAt := none
  createdAt := now
  updatedAt := now

def ArticleUpdate.unset (payload : ArticleUpdate) : Bool :=
  payload.title.isNone && payload.excerpt.isNone && payload.bodyMarkdown.isNone &&
    payload.coverImageUrl.isNone && payload.tags.isNone

/-- Null is set where the column is `NOT NULL`. -/
def ArticleUpdate.nulls (payload : ArticleUpdate) : Bool :=
  payload.title = some none || payload.excerpt = some none || payload.tags = some none

/-- The fields that are set, and the minutes of a body that is. -/
def edited (rules : TextRules) (payload : ArticleUpdate) (now : Timestamp) (article : Article) :
    Article :=
  { article with
    title := payload.title.join.getD article.title
    excerpt := payload.excerpt.join.getD article.excerpt
    bodyMarkdown := payload.bodyMarkdown.join.getD article.bodyMarkdown
    coverImageUrl := payload.coverImageUrl.getD article.coverImageUrl
    tags := payload.tags.join.getD article.tags
    readMinutes := payload.bodyMarkdown.join.elim article.readMinutes
      fun body => estimateReadMinutes rules body.toList
    updatedAt := now }

theorem slug_edited (rules : TextRules) (payload : ArticleUpdate) (now : Timestamp)
    (article : Article) : (edited rules payload now article).slug = article.slug := rfl

/-- The columns of `update_publish_status`. -/
def withPublishStatus (published : Bool) (now : Timestamp) (article : Article) : Article :=
  if published then
    { article with status := .published, publishedAt := some now, updatedAt := now }
  else { article with status := .draft, updatedAt := now }

theorem slug_withPublishStatus (published : Bool) (now : Timestamp) (article : Article) :
    (withPublishStatus published now article).slug = article.slug := by
  cases published <;> rfl

/-- The requests of one statement. -/
inductive Change where
  | update (articleId : ArticleId) (payload : ArticleUpdate)
  | publish (articleId : ArticleId) (published : Bool)
  | delete (articleId : ArticleId)
deriving DecidableEq, Repr

def notFound (articleId : ArticleId) : ArticleError :=
  .notFound ("Article not found: " ++ articleId)

def updateArticle (rules : TextRules) (articleId : ArticleId) (payload : ArticleUpdate)
    (now : Timestamp) (articles : Articles) : Except ArticleError (Articles × Reply) :=
  if payload.bodyMarkdown = some none then .error .attributeError
  else if payload.unset then .error (.validation "No updatable fields supplied")
  else
    match articles.table.get? articleId with
    | none => .error (notFound articleId)
    | some article =>
      if payload.nulls then .error .notNullViolation
      else
        .ok (articles.alter articleId (edited rules payload now) (slug_edited rules payload now),
          .article (edited rules payload now article))

def publishArticle (articleId : ArticleId) (published : Bool) (now : Timestamp)
    (articles : Articles) : Except ArticleError (Articles × Reply) :=
  match articles.table.get? articleId with
  | none => .error (notFound articleId)
  | some article =>
    .ok (articles.alter articleId (withPublishStatus published now)
        (slug_withPublishStatus published now),
      .article (withPublishStatus published now article))

def deleteArticle (articleId : ArticleId) (articles : Articles) :
    Except ArticleError (Articles × Reply) :=
  if (articles.table.get? articleId).isSome then
    .ok (articles.delete articleId, .deleted articleId)
  else .error (notFound articleId)

def Change.send (rules : TextRules) (now : Timestamp) (articles : Articles) :
    Change → Except ArticleError (Articles × Reply)
  | .update articleId payload => updateArticle rules articleId payload now articles
  | .publish articleId published => publishArticle articleId published now articles
  | .delete articleId => deleteArticle articleId articles

def getPublicArticle (articles : Articles) (slug : List Char) : Except ArticleError Article :=
  match articles.getBySlug slug true with
  | none => .error (.notFound ("Article not found: " ++ String.ofList slug))
  | some row => .ok row.2

/-! ## Requests -/

inductive Command where
  | create (payload : ArticleCreate) (authorId : UserId)
  | change (change : Change)

/-- A request up to its next statement. -/
inductive Request where
  /-- `exists_slug` of the candidate with a number -/
  | probing (payload : ArticleCreate) (authorId : UserId) (n : Nat)
  | inserting (payload : ArticleCreate) (authorId : UserId) (slug : List Char)
  | sending (change : Change)
  | replied (reply : Reply)
  | failed (error : ArticleError)
deriving DecidableEq, Repr

/-- What the database draws for a statement. -/
structure Draw where
  articleId : ArticleId
  now : Timestamp

def probed (rules : TextRules) (payload : ArticleCreate) (n : Nat) : List Char :=
  candidate (slugify rules payload.title.toList) n

/-- A statement. An insert is seen by the others from the commit on. -/
def turn (rules : TextRules) (articles : Articles) (request : Request) (draw : Draw) :
    Articles × Request :=
  match request with
  | .probing payload authorId n =>
    if articles.existsSlug (probed rules payload n) then
      (articles, .probing payload authorId (n + 1))
    else (articles, .inserting payload authorId (probed rules payload n))
  | .inserting payload authorId slug =>
    let article := created rules payload authorId slug draw.now
    match articles.insert? draw.articleId article with
    | none => (articles, .failed .uniqueViolation)
    | some next => (next, .replied (.article article))
  | .sending change =>
    match change.send rules draw.now articles with
    | .error error => (articles, .failed error)
    | .ok sent => (sent.1, .replied sent.2)
  | .replied reply => (articles, .replied reply)
  | .failed error => (articles, .failed error)

def system (rules : TextRules) : System Articles Request Command Draw where
  start
    | _, .create payload authorId => .probing payload authorId 1
    | _, .change change => .sending change
  turn := turn rules

def opened : Pool Articles Request := ⟨.empty, []⟩

/-! ## The slugs are well formed -/

/-- Words of letters and digits, with a hyphen between them. -/
def IsSlug (slug : List Char) : Prop :=
  ∃ words, words ≠ [] ∧ slug = Tokens.join '-' words ∧
    ∀ word ∈ words, word ≠ [] ∧ ∀ c ∈ word, isSlugChar c = true

theorem isSlug_slugify (rules : TextRules) (title : List Char) : IsSlug (slugify rules title) := by
  have hwords := @Regex.trim_sub_some_one (fun c => !isSlugChar c) '-' (by decide)
    (rules.lower title)
  rw [slugify, hwords]
  split_ifs with hnone
  · refine ⟨["article".toList], List.cons_ne_nil _ _, rfl, fun word hword => ?_⟩
    rw [List.mem_singleton.mp hword]
    exact ⟨by decide, List.all_eq_true.mp (by decide)⟩
  · refine ⟨_, fun hnil => hnone ?_, rfl, fun word hword => ?_⟩
    · rw [hnil]
      rfl
    · obtain ⟨hne, hchars⟩ := Tokens.word_of_mem_split hword
      exact ⟨hne, fun c hc => by simpa using hchars c hc⟩

theorem isSlugChar_of_isDigit {c : Char} (hdigit : c.isDigit = true) : isSlugChar c = true := by
  simp only [Char.isDigit, Bool.and_eq_true, decide_eq_true_eq] at hdigit
  simp only [isSlugChar, Bool.or_eq_true, Bool.and_eq_true, decide_eq_true_eq]
  exact Or.inr hdigit

theorem isSlug_candidate {base : List Char} (hbase : IsSlug base) (n : Nat) :
    IsSlug (candidate base n) := by
  rw [candidate]
  split_ifs
  · exact hbase
  · obtain ⟨words, hne, rfl, hwords⟩ := hbase
    refine ⟨words ++ [Nat.toDigits 10 n], by simp, (Tokens.join_concat hne _).symm, ?_⟩
    intro word hword
    rcases List.mem_append.mp hword with hold | hnew
    · exact hwords word hold
    · rw [List.mem_singleton.mp hnew]
      exact ⟨Nat.toDigits_ne_nil, fun c hc =>
        isSlugChar_of_isDigit (Nat.isDigit_of_mem_toDigits (by decide) (by decide) hc)⟩

theorem isSlug_probed (rules : TextRules) (payload : ArticleCreate) (n : Nat) :
    IsSlug (probed rules payload n) := isSlug_candidate (isSlug_slugify rules _) n

theorem candidate_inj {base : List Char} {n m : Nat} (hsame : candidate base n = candidate base m) :
    n = m := by
  rw [candidate, candidate] at hsame
  split_ifs at hsame with hn hm hm
  · rw [hn, hm]
  · exact absurd hsame.symm (by simp)
  · exact absurd hsame (by simp)
  · exact Names.toDigits_injective (List.cons.inj (List.append_cancel_left hsame)).2

/-- Of one candidate more than there are articles, one is free. -/
theorem exists_candidate (articles : Articles) (base : List Char) :
    ∃ n, 1 ≤ n ∧ n ≤ articles.table.rows.length + 1 ∧
      articles.existsSlug (candidate base n) = false := by
  by_contra! htaken
  have hsubset : (Finset.Icc 1 (articles.table.rows.length + 1)).image (candidate base) ⊆
      (articles.table.rows.map (·.2.slug)).toFinset := by
    intro slug hslug
    obtain ⟨n, hn, rfl⟩ := Finset.mem_image.mp hslug
    obtain ⟨hfirst, hlast⟩ := Finset.mem_Icc.mp hn
    have hstored := htaken n hfirst hlast
    simpa [Articles.existsSlug] using hstored
  have hcard := Finset.card_le_card hsubset
  rw [Finset.card_image_of_injective _ fun _ _ => candidate_inj, Nat.card_Icc] at hcard
  have hrows := List.toFinset_card_le (articles.table.rows.map (·.2.slug))
  rw [List.length_map] at hrows
  omega

theorem exists_first_free (articles : Articles) (base : List Char) :
    ∃ n, 1 ≤ n ∧ n ≤ articles.table.rows.length + 1 ∧
      articles.existsSlug (candidate base n) = false ∧
      ∀ m, 1 ≤ m → m < n → articles.existsSlug (candidate base m) = true := by
  have hfree := exists_candidate articles base
  obtain ⟨hfirst, hlast, hcandidate⟩ := Nat.find_spec hfree
  refine ⟨Nat.find hfree, hfirst, hlast, hcandidate, fun m hm hless => ?_⟩
  by_contra htaken
  exact Nat.find_min hfree hless ⟨hm, by omega, by simpa using htaken⟩

/-! ## What a turn does -/

/-- What a statement did to the table. -/
inductive Deed where
  | create (articleId : ArticleId) (slug : List Char)
  | update (articleId : ArticleId)
  | publish (articleId : ArticleId) (published : Bool)
  | delete (articleId : ArticleId)
deriving DecidableEq, Repr

def Change.deed : Change → Deed
  | .update articleId _ => .update articleId
  | .publish articleId published => .publish articleId published
  | .delete articleId => .delete articleId

def deed? (rules : TextRules) (articles : Articles) (request : Request) (draw : Draw) :
    Option Deed :=
  match request with
  | .inserting payload authorId slug =>
    (articles.insert? draw.articleId (created rules payload authorId slug draw.now)).map
      fun _ => .create draw.articleId slug
  | .sending change =>
    match change.send rules draw.now articles with
    | .error _ => none
    | .ok _ => some change.deed
  | .probing .. | .replied .. | .failed .. => none

/-- What is never written again. -/
structure Kept (before after : Article) : Prop where
  slug : after.slug = before.slug
  authorId : after.authorId = before.authorId
  createdAt : after.createdAt = before.createdAt

/-- The table after a deed. -/
inductive Does (articles : Articles) : Option Deed → Articles → Prop
  | nothing : Does articles none articles
  | create {articleId : ArticleId} {article : Article} {next : Articles}
      (hnew : articles.table.get? articleId = none)
      (hfree : articles.existsSlug article.slug = false) (hdraft : article.status = .draft)
      (hnext : next.table = articles.table.set articleId article) :
      Does articles (some (.create articleId article.slug)) next
  | update {articleId : ArticleId} {article : Article} {change : Article → Article}
      (hslug : ∀ article, (change article).slug = article.slug)
      (hstored : articles.table.get? articleId = some article)
      (hkept : ∀ article, Kept article (change article))
      (hstatus : ∀ article, (change article).status = article.status) :
      Does articles (some (.update articleId)) (articles.alter articleId change hslug)
  | publish {articleId : ArticleId} {article : Article} {published : Bool}
      {change : Article → Article} (hslug : ∀ article, (change article).slug = article.slug)
      (hstored : articles.table.get? articleId = some article)
      (hkept : ∀ article, Kept article (change article))
      (hstatus : ∀ article, (change article).status = .published ↔ published = true) :
      Does articles (some (.publish articleId published)) (articles.alter articleId change hslug)
  | delete {articleId : ArticleId} (hstored : (articles.table.get? articleId).isSome) :
      Does articles (some (.delete articleId)) (articles.delete articleId)

section Turns

variable {rules : TextRules} {articles next : Articles}

@[simp] theorem Articles.get?_alter (articles : Articles) (articleId : ArticleId)
    (change : Article → Article) (hslug : ∀ article, (change article).slug = article.slug)
    (id : ArticleId) : (articles.alter articleId change hslug).table.get? id =
      (articles.table.get? id).map fun article =>
        if id = articleId then change article else article := by
  simp [alter]

@[simp] theorem Articles.get?_delete (articles : Articles) (articleId id : ArticleId) :
    (articles.delete articleId).table.get? id =
      if id = articleId then none else articles.table.get? id := by
  rw [delete, Table.get?_deleteWhere]
  by_cases hid : id = articleId
  · simp [hid]
  · cases articles.table.get? id <;> simp [hid]

theorem existsSlug_eq_false_iff {slug : List Char} :
    articles.existsSlug slug = false ↔ slug ∉ articles.table.rows.map (·.2.slug) := by
  simp [Articles.existsSlug]

theorem insert?_eq_some {articleId : ArticleId} {article : Article}
    (hnext : articles.insert? articleId article = some next) :
    articles.table.get? articleId = none ∧ articles.existsSlug article.slug = false ∧
      next.table = articles.table.set articleId article := by
  rw [Articles.insert?] at hnext
  split_ifs at hnext with hfree
  rw [← Option.some.inj hnext]
  exact ⟨hfree.1, existsSlug_eq_false_iff.mpr hfree.2, rfl⟩

theorem exists_insert? {articleId : ArticleId} {article : Article}
    (hnew : articles.table.get? articleId = none)
    (hfree : articles.existsSlug article.slug = false) :
    ∃ next, articles.insert? articleId article = some next := by
  rw [Articles.insert?, dif_pos ⟨hnew, existsSlug_eq_false_iff.mp hfree⟩]
  exact ⟨_, rfl⟩

theorem does_send (rules : TextRules) (articles : Articles) (change : Change) (now : Timestamp) :
    ∀ sent, change.send rules now articles = .ok sent →
      Does articles (some change.deed) sent.1 := by
  intro sent hsent
  cases change with
  | update articleId payload =>
    rw [Change.send, updateArticle] at hsent
    cases hstored : articles.table.get? articleId with
    | none =>
      rw [hstored] at hsent
      split_ifs at hsent
    | some article =>
      rw [hstored] at hsent
      simp only [ite_eq_iff, reduceCtorEq, and_false, false_or, Except.ok.injEq] at hsent
      obtain ⟨-, -, -, rfl⟩ := hsent
      exact .update (slug_edited rules payload now) hstored (fun _ => ⟨rfl, rfl, rfl⟩) fun _ => rfl
  | publish articleId published =>
    rw [Change.send, publishArticle] at hsent
    cases hstored : articles.table.get? articleId with
    | none => simp [hstored] at hsent
    | some article =>
      rw [hstored] at hsent
      rw [← Except.ok.inj hsent]
      refine .publish (slug_withPublishStatus published now) hstored (fun article => ?_)
        fun article => ?_
      · cases published <;> exact ⟨rfl, rfl, rfl⟩
      · cases published <;> simp [withPublishStatus]
  | delete articleId =>
    rw [Change.send, deleteArticle] at hsent
    split_ifs at hsent with hstored
    rw [← Except.ok.inj hsent]
    exact .delete hstored

theorem does_turn (rules : TextRules) (articles : Articles) (request : Request) (draw : Draw) :
    Does articles (deed? rules articles request draw) (turn rules articles request draw).1 := by
  cases request with
  | probing payload authorId n =>
    rw [turn, deed?]
    split_ifs <;> exact .nothing
  | inserting payload authorId slug =>
    rw [turn, deed?]
    cases hinsert : articles.insert? draw.articleId
        (created rules payload authorId slug draw.now) with
    | none => exact .nothing
    | some next =>
      obtain ⟨hnew, hfree, hnext⟩ := insert?_eq_some hinsert
      exact .create hnew hfree rfl hnext
  | sending change =>
    rw [turn, deed?]
    cases hsent : change.send rules draw.now articles with
    | error error => exact .nothing
    | ok sent => exact does_send rules articles change draw.now sent hsent
  | replied | failed => exact .nothing

/-- An article that is not deleted keeps its slug. -/
theorem Does.kept {deed : Option Deed} (hdoes : Does articles deed next) {articleId : ArticleId}
    {article : Article} (hstored : articles.table.get? articleId = some article)
    (hdeed : deed ≠ some (.delete articleId)) :
    ∃ later, next.table.get? articleId = some later ∧ Kept article later := by
  have hsame : Kept article article := ⟨rfl, rfl, rfl⟩
  cases hdoes with
  | nothing => exact ⟨article, hstored, hsame⟩
  | create hnew _ _ hnext =>
    rw [hnext, Table.get?_set, if_neg (Table.ne_of_new hnew hstored)]
    exact ⟨article, hstored, hsame⟩
  | update _ _ hkept _ | publish _ _ hkept _ =>
    rw [Articles.get?_alter, hstored]
    refine ⟨_, rfl, ?_⟩
    split_ifs
    · exact hkept article
    · exact hsame
  | delete _ =>
    rw [Articles.get?_delete, if_neg fun hid => hdeed (by rw [hid])]
    exact ⟨article, hstored, hsame⟩

/-- An article of the next table is that of a creation, or has the slug that it had. -/
theorem Does.slug_eq {deed : Option Deed} (hdoes : Does articles deed next)
    {articleId : ArticleId} {later : Article} (hlater : next.table.get? articleId = some later) :
    deed = some (.create articleId later.slug) ∨
      ∃ article, articles.table.get? articleId = some article ∧ later.slug = article.slug := by
  cases hdoes with
  | nothing => exact Or.inr ⟨later, hlater, rfl⟩
  | create hnew _ _ hnext =>
    rw [hnext, Table.get?_set] at hlater
    split_ifs at hlater with hid
    · rw [hid, ← Option.some.inj hlater]
      exact Or.inl rfl
    · exact Or.inr ⟨later, hlater, rfl⟩
  | update _ _ hkept _ | publish _ _ hkept _ =>
    rw [Articles.get?_alter] at hlater
    obtain ⟨article, hstored, rfl⟩ := Option.map_eq_some_iff.mp hlater
    refine Or.inr ⟨article, hstored, ?_⟩
    split_ifs
    · exact (hkept article).slug
    · rfl
  | delete _ =>
    rw [Articles.get?_delete] at hlater
    split_ifs at hlater
    exact Or.inr ⟨later, hlater, rfl⟩

end Turns

/-- What a move does to the table. -/
def moveDeed (rules : TextRules) (pool : Pool Articles Request) : Move Command Draw → Option Deed
  | .start _ => none
  | .turn position draw =>
    pool.threads[position]?.bind fun request => deed? rules pool.shared request draw

theorem does_step (rules : TextRules) (pool : Pool Articles Request) (move : Move Command Draw) :
    Does pool.shared (moveDeed rules pool move) ((system rules).step pool move).shared := by
  cases move with
  | start command => exact .nothing
  | turn position draw =>
    rw [moveDeed]
    cases hthread : pool.threads[position]? with
    | none =>
      rw [System.step_turn_of_none hthread]
      exact .nothing
    | some request =>
      rw [System.step_turn hthread]
      exact does_turn rules pool.shared request draw

theorem getBySlug_eq_some_iff {articles : Articles} {slug : List Char} {publishedOnly : Bool}
    {row : ArticleId × Article} : articles.getBySlug slug publishedOnly = some row ↔
      articles.table.get? row.1 = some row.2 ∧ row.2.slug = slug ∧
        (publishedOnly = true → row.2.status = .published) := by
  rw [← Table.mem_rows_iff]
  constructor
  · intro hfound
    have hkeep := List.find?_some hfound
    simp only [Bool.and_eq_true, Bool.or_eq_true, decide_eq_true_eq, Bool.not_eq_true',
      ← Bool.not_eq_true, ← imp_iff_not_or] at hkeep
    exact ⟨List.mem_of_find?_eq_some hfound, hkeep.1, hkeep.2⟩
  · rintro ⟨hrow, hslug, hstatus⟩
    have hsome : (articles.getBySlug slug publishedOnly).isSome := by
      rw [Articles.getBySlug, List.find?_isSome]
      refine ⟨row, hrow, ?_⟩
      cases publishedOnly <;> simp_all
    obtain ⟨found, hfound⟩ := Option.isSome_iff_exists.mp hsome
    have hkeep := List.find?_some hfound
    rw [Bool.and_eq_true, decide_eq_true_eq] at hkeep
    rw [hfound, List.inj_on_of_nodup_map articles.slug_unique (List.mem_of_find?_eq_some hfound)
      hrow (hkeep.1.trans hslug.symm)]

/-! ## Permalinks -/

section Runs

variable {rules : TextRules} {pool : Pool Articles Request}

/-- Every slug is well formed. -/
def WellSlugged (articles : Articles) : Prop :=
  ∀ articleId article, articles.table.get? articleId = some article → IsSlug article.slug

/-- What is inserted is well formed. -/
def InsertsSlug : Request → Prop
  | .inserting _ _ slug => IsSlug slug
  | _ => True

theorem insertsSlug_turn {articles : Articles} {request : Request} (hrequest : InsertsSlug request)
    (draw : Draw) : InsertsSlug (turn rules articles request draw).2 := by
  cases request with
  | probing payload authorId n =>
    rw [turn]
    split_ifs
    · trivial
    · exact isSlug_probed rules payload n
  | inserting payload authorId slug =>
    rw [turn]
    split <;> trivial
  | sending change =>
    rw [turn]
    split <;> trivial
  | replied | failed => exact hrequest

theorem respects_slugs (rules : TextRules) :
    Respects (system rules) WellSlugged (fun _ => InsertsSlug) fun _ _ => True where
  start pool command _ _ := by cases command <;> trivial
  turn pool position draw request hpool _ hthread := by
    have hlocal := hpool.thread hthread
    refine ⟨fun articleId later hlater => ?_, ?_⟩
    · rcases (does_turn rules pool.shared request draw).slug_eq hlater with
        hcreate | ⟨article, hstored, hsame⟩
      · cases request with
        | inserting payload authorId slug =>
          obtain ⟨_, -, hdeed⟩ := Option.map_eq_some_iff.mp hcreate
          rw [← (Deed.create.inj hdeed).2]
          exact hlocal
        | sending change =>
          rw [deed?] at hcreate
          split at hcreate
          · cases hcreate
          · cases change <;> cases Option.some.inj hcreate
        | probing | replied | failed => cases hcreate
      · rw [hsame]
        exact hpool.shared articleId article hstored
    · exact insertsSlug_turn hlocal draw
  others pool position draw request hpool _ _ elsewhere other _ hother :=
    hpool.threads other (List.mem_of_getElem? hother)

theorem holds_opened : Holds WellSlugged (fun _ => InsertsSlug) opened where
  shared _ _ hstored := by cases hstored
  threads _ hmem := by cases hmem

/-- The pools that requests lead to. -/
def Reached (rules : TextRules) (pool : Pool Articles Request) : Prop :=
  ∃ moves, pool ∈ Run.visited (system rules).step opened moves

theorem Reached.wellSlugged (hreached : Reached rules pool) : WellSlugged pool.shared := by
  obtain ⟨moves, hvisited⟩ := hreached
  have hholds : ∀ next ∈ Run.visited (system rules).step opened moves,
      Holds WellSlugged (fun _ => InsertsSlug) next :=
    Run.forall_visited_of_step (fun _ _ hpool => (respects_slugs rules).step hpool trivial) moves
      holds_opened
  exact (hholds pool hvisited).shared

/-- While an article is not deleted, its slug leads to it, whatever else is requested. -/
theorem permalinks_kept (hreached : Reached rules pool) {articleId : ArticleId} {article : Article}
    (hstored : pool.shared.table.get? articleId = some article)
    {moves : List (Move Command Draw)}
    (hmoves : Run.StepsMeet (system rules).step
      (fun pool move => moveDeed rules pool move ≠ some (.delete articleId)) pool moves) :
    IsSlug article.slug ∧ ∀ next ∈ Run.visited (system rules).step pool moves,
      ∃ later, next.shared.getBySlug article.slug false = some (articleId, later) ∧
        Kept article later := by
  refine ⟨hreached.wellSlugged articleId article hstored, ?_⟩
  have hkept : ∀ next ∈ Run.visited (system rules).step pool moves,
      ∃ later, next.shared.table.get? articleId = some later ∧ Kept article later := by
    refine Run.forall_visited (fun pool move hpool hmove => ?_) ⟨article, hstored, rfl, rfl, rfl⟩
      hmoves
    obtain ⟨later, hlater, hfirst⟩ := hpool
    obtain ⟨last, hlast, hthen⟩ := (does_step rules pool move).kept hlater hmove
    exact ⟨last, hlast, hthen.slug.trans hfirst.slug, hthen.authorId.trans hfirst.authorId,
      hthen.createdAt.trans hfirst.createdAt⟩
  intro next hnext
  obtain ⟨later, hlater, hsame⟩ := hkept next hnext
  exact ⟨later, getBySlug_eq_some_iff.mpr ⟨hlater, hsame.slug, fun hfalse => by cases hfalse⟩,
    hsame⟩

section Sample

def sampleRules : TextRules := ⟨List.map Char.toLower, Char.isWhitespace⟩

def sampleCreate : ArticleCreate := ⟨"Hi!", "", "two words", none, []⟩

def sampleMoves : List (Move Command Draw) :=
  [.start (.create sampleCreate "u"), .turn 0 ⟨"", 0⟩, .turn 0 ⟨"a", 5⟩]

def samplePool : Pool Articles Request := sampleMoves.foldl (system sampleRules).step opened

theorem permalinks_kept_published :
    samplePool.shared.table.get? "a" =
        some (created sampleRules sampleCreate "u" "hi".toList 5) ∧
      IsSlug "hi".toList ∧
        ∀ next ∈ Run.visited (system sampleRules).step samplePool
            [.start (.change (.publish "a" true)), .turn 1 ⟨"", 9⟩],
          ∃ later, next.shared.getBySlug "hi".toList false = some ("a", later) ∧
            Kept (created sampleRules sampleCreate "u" "hi".toList 5) later := by
  have hstored : samplePool.shared.table.get? "a" =
      some (created sampleRules sampleCreate "u" "hi".toList 5) := by decide +kernel
  refine ⟨hstored, ?_⟩
  apply permalinks_kept ⟨sampleMoves, Run.foldl_mem_visited _ _ _⟩ hstored
  exact ⟨by decide +kernel, by decide +kernel, trivial⟩

end Sample

/-! ## Creations -/

/-- A move that is another request's, and inserts no article with a slug. -/
def LeavesFree (rules : TextRules) (position : Nat) (slug : List Char)
    (pool : Pool Articles Request) (move : Move Command Draw) : Prop :=
  (∀ draw, move ≠ .turn position draw) ∧
    ∀ articleId, moveDeed rules pool move ≠ some (.create articleId slug)

theorem existsSlug_eq_false {articles : Articles} {slug : List Char} :
    articles.existsSlug slug = false ↔
      ∀ articleId article, articles.table.get? articleId = some article → article.slug ≠ slug := by
  rw [existsSlug_eq_false_iff, List.mem_map, not_exists]
  constructor
  · intro hnone articleId article hstored hslug
    exact hnone (articleId, article) ⟨(Table.mem_rows_iff _ _ _).mpr hstored, hslug⟩
  · rintro hnone row ⟨hrow, hslug⟩
    exact hnone row.1 row.2 ((Table.mem_rows_iff _ _ _).mp hrow) hslug

theorem Does.free {articles next : Articles} {deed : Option Deed} (hdoes : Does articles deed next)
    {slug : List Char} (hfree : articles.existsSlug slug = false)
    (hdeed : ∀ articleId, deed ≠ some (.create articleId slug)) : next.existsSlug slug = false := by
  rw [existsSlug_eq_false] at hfree ⊢
  intro articleId later hlater hslug
  rcases hdoes.slug_eq hlater with hcreate | ⟨article, hstored, hsame⟩
  · exact hdeed articleId (hslug ▸ hcreate)
  · exact hfree articleId article hstored (hsame.symm.trans hslug)

/-- The other requests leave a request where it is. -/
theorem getElem?_step_of_other {position : Nat} {request : Request}
    (hthread : pool.threads[position]? = some request) {move : Move Command Draw}
    (hother : ∀ draw, move ≠ .turn position draw) :
    ((system rules).step pool move).threads[position]? = some request := by
  cases move with
  | start command =>
    rw [System.step, List.getElem?_append_left (List.getElem?_eq_some_iff.mp hthread).1]
    exact hthread
  | turn elsewhere draw =>
    have hne : elsewhere ≠ position := fun hsame => hother draw (by rw [hsame])
    cases hturn : pool.threads[elsewhere]? with
    | none => rwa [System.step_turn_of_none hturn]
    | some other =>
      rw [System.step_turn hturn]
      exact (List.getElem?_set_ne hne).trans hthread

/-- While the slug of a request is left free, it is about to insert it. -/
theorem inserting_kept {position : Nat} {request : Request} {slug : List Char}
    (hthread : pool.threads[position]? = some request)
    (hfree : pool.shared.existsSlug slug = false) {moves : List (Move Command Draw)}
    (hmoves : Run.StepsMeet (system rules).step (LeavesFree rules position slug) pool moves) :
    (moves.foldl (system rules).step pool).threads[position]? = some request ∧
      (moves.foldl (system rules).step pool).shared.existsSlug slug = false := by
  have hkept : ∀ next ∈ Run.visited (system rules).step pool moves,
      next.threads[position]? = some request ∧ next.shared.existsSlug slug = false := by
    refine Run.forall_visited (fun next move hnext hmove => ?_) ⟨hthread, hfree⟩ hmoves
    exact ⟨getElem?_step_of_other hnext.1 hmove.1, (does_step rules next move).free hnext.2 hmove.2⟩
  exact hkept _ (Run.foldl_mem_visited _ _ _)

theorem step_of_turn {position : Nat} {request later : Request} {draw : Draw} {next : Articles}
    (hthread : pool.threads[position]? = some request)
    (hturn : turn rules pool.shared request draw = (next, later)) :
    (system rules).step pool (.turn position draw) = ⟨next, pool.threads.set position later⟩ := by
  have hsystem : (system rules).turn pool.shared request draw = (next, later) := hturn
  rw [System.step_turn hthread, hsystem]

theorem step_probing_free {position : Nat} {payload : ArticleCreate} {authorId : UserId} {n : Nat}
    (hthread : pool.threads[position]? = some (.probing payload authorId n))
    (hfree : pool.shared.existsSlug (probed rules payload n) = false) (draw : Draw) :
    (system rules).step pool (.turn position draw) =
      ⟨pool.shared, pool.threads.set position
        (.inserting payload authorId (probed rules payload n))⟩ := by
  apply step_of_turn hthread
  rw [turn, hfree, if_neg Bool.false_ne_true]

theorem step_probing_taken {position : Nat} {payload : ArticleCreate} {authorId : UserId} {n : Nat}
    (hthread : pool.threads[position]? = some (.probing payload authorId n))
    (htaken : pool.shared.existsSlug (probed rules payload n) = true) (draw : Draw) :
    (system rules).step pool (.turn position draw) =
      ⟨pool.shared, pool.threads.set position (.probing payload authorId (n + 1))⟩ := by
  apply step_of_turn hthread
  rw [turn, if_pos htaken]

theorem getElem?_set_of_thread {position : Nat} {request : Request}
    (hthread : pool.threads[position]? = some request) (next : Request) :
    (pool.threads.set position next)[position]? = some next :=
  List.getElem?_set_self (List.getElem?_eq_some_iff.mp hthread).1

/-- The insert of a free slug, under an id that is new. -/
theorem step_inserting_free {position : Nat} {payload : ArticleCreate} {authorId : UserId}
    {slug : List Char} (hthread : pool.threads[position]? = some (.inserting payload authorId slug))
    (hfree : pool.shared.existsSlug slug = false) {draw : Draw}
    (hnew : pool.shared.table.get? draw.articleId = none) :
    let article := created rules payload authorId slug draw.now
    let last := (system rules).step pool (.turn position draw)
    last.threads[position]? = some (.replied (.article article)) ∧
      last.shared.table.get? draw.articleId = some article := by
  intro article last
  have hslug : pool.shared.existsSlug article.slug = false := hfree
  obtain ⟨next, hinsert⟩ := exists_insert? hnew hslug
  have hlast : last = ⟨next, pool.threads.set position (.replied (.article article))⟩ := by
    apply step_of_turn hthread
    rw [turn, hinsert]
  rw [hlast, (insert?_eq_some hinsert).2.2, Table.get?_set, if_pos rfl]
  exact ⟨getElem?_set_of_thread hthread _, rfl⟩

/-- A creation that found its slug free stores the article under it, unless another creation
inserts the very slug before it does. -/
theorem created_unless_raced {position : Nat} {payload : ArticleCreate} {authorId : UserId}
    {n : Nat} (hthread : pool.threads[position]? = some (.probing payload authorId n))
    (hfree : pool.shared.existsSlug (probed rules payload n) = false) (probe draw : Draw)
    {moves : List (Move Command Draw)}
    (hmoves : Run.StepsMeet (system rules).step
      (LeavesFree rules position (probed rules payload n))
      ((system rules).step pool (.turn position probe)) moves)
    (hnew : ((Move.turn position probe :: moves).foldl (system rules).step pool).shared.table.get?
      draw.articleId = none) :
    let article := created rules payload authorId (probed rules payload n) draw.now
    let last := (Move.turn position probe :: moves ++ [Move.turn position draw]).foldl
      (system rules).step pool
    last.threads[position]? = some (.replied (.article article)) ∧
      last.shared.table.get? draw.articleId = some article := by
  have hprobe := step_probing_free hthread hfree probe
  have hstart : ((system rules).step pool (.turn position probe)).threads[position]? =
      some (.inserting payload authorId (probed rules payload n)) := by
    rw [hprobe]
    exact getElem?_set_of_thread hthread _
  have hstartFree : ((system rules).step pool (.turn position probe)).shared.existsSlug
      (probed rules payload n) = false := by rw [hprobe]; exact hfree
  obtain ⟨hlater, hlaterFree⟩ := inserting_kept hstart hstartFree hmoves
  rw [List.foldl_append, List.foldl_cons, List.foldl_nil]
  exact step_inserting_free hlater hlaterFree hnew

def sampleRace : List (Move Command Draw) :=
  [.start (.change (.delete "a")), .turn 2 ⟨"", 0⟩, .start (.create sampleCreate "v")]

/-- A pool with a second creation of the same title, after its first probe. -/
def secondPool : Pool Articles Request :=
  [Move.start (.create sampleCreate "w"), .turn 1 ⟨"", 0⟩].foldl (system sampleRules).step
    samplePool

/-- In between, the first article is deleted, and a third creation begins. -/
theorem created_unless_raced_second :
    let article := created sampleRules sampleCreate "w" (probed sampleRules sampleCreate 2) 7
    let last := (Move.turn 1 (Draw.mk "" 0) :: sampleRace ++ [Move.turn 1 (Draw.mk "b" 7)]).foldl
      (system sampleRules).step secondPool
    last.threads[1]? = some (.replied (.article article)) ∧
      last.shared.table.get? "b" = some article := by
  have hthread : secondPool.threads[1]? = some (.probing sampleCreate "w" 2) := by decide +kernel
  have hfree : secondPool.shared.existsSlug (probed sampleRules sampleCreate 2) = false := by
    decide +kernel
  have hmoves : Run.StepsMeet (system sampleRules).step
      (LeavesFree sampleRules 1 (probed sampleRules sampleCreate 2))
      ((system sampleRules).step secondPool (.turn 1 ⟨"", 0⟩)) sampleRace :=
    ⟨⟨fun _ => nofun, fun _ => nofun⟩, ⟨fun _ => nofun, fun _ => nofun⟩,
      ⟨fun _ => nofun, fun _ => nofun⟩, trivial⟩
  exact created_unless_raced hthread hfree ⟨"", 0⟩ ⟨"b", 7⟩ hmoves (by decide +kernel)

/-- Probes of slugs that are taken. -/
theorem probes_taken {position : Nat} {payload : ArticleCreate} {authorId : UserId} {first : Nat}
    (hthread : pool.threads[position]? = some (.probing payload authorId first)) (draws : List Draw)
    (htaken : ∀ m, first ≤ m → m < first + draws.length →
      pool.shared.existsSlug (probed rules payload m) = true) :
    let last := (draws.map (Move.turn position)).foldl (system rules).step pool
    last.shared = pool.shared ∧
      last.threads[position]? = some (.probing payload authorId (first + draws.length)) := by
  induction draws generalizing pool first with
  | nil => exact ⟨rfl, hthread⟩
  | cons draw rest ih =>
    rw [List.length_cons] at htaken ⊢
    have hstep := step_probing_taken hthread (htaken first le_rfl (by omega)) draw
    have hnext : (Pool.mk pool.shared (pool.threads.set position
        (.probing payload authorId (first + 1)))).threads[position]? =
          some (.probing payload authorId (first + 1)) := getElem?_set_of_thread hthread _
    rw [List.map_cons, List.foldl_cons, hstep]
    have hrest := ih hnext fun m hm hlast => htaken m (by omega) (by omega)
    rw [Nat.add_assoc, Nat.add_comm 1] at hrest
    exact hrest

/-- A creation by itself ends, with the first slug that is free, after at most one probe more than
there are articles. -/
theorem creation_completes {position : Nat} {payload : ArticleCreate} {authorId : UserId}
    (hthread : pool.threads[position]? = some (.probing payload authorId 1)) :
    ∃ probes, probes ≤ pool.shared.table.rows.length + 1 ∧
      (∀ m, 1 ≤ m → m < probes → pool.shared.existsSlug (probed rules payload m) = true) ∧
      ∀ draws : List Draw, draws.length = probes → ∀ draw : Draw,
        pool.shared.table.get? draw.articleId = none →
        let article := created rules payload authorId (probed rules payload probes) draw.now
        let last := ((draws ++ [draw]).map (Move.turn position)).foldl (system rules).step pool
        last.threads[position]? = some (.replied (.article article)) ∧
          last.shared.table.get? draw.articleId = some article := by
  obtain ⟨probes, hfirst, hlast, hprobed, htaken⟩ :=
    exists_first_free pool.shared (slugify rules payload.title.toList)
  refine ⟨probes, hlast, htaken, fun draws hdraws draw hnew => ?_⟩
  obtain ⟨before, probe, rfl⟩ : ∃ before probe, draws = before ++ [probe] := by
    have hne : draws ≠ [] := by
      rintro rfl
      rw [← hdraws] at hfirst
      cases hfirst
    exact ⟨draws.dropLast, draws.getLast hne, (List.dropLast_concat_getLast hne).symm⟩
  rw [List.length_append, List.length_singleton] at hdraws
  have hprobes := probes_taken hthread before fun m hm hless => htaken m hm (by omega)
  rw [Nat.add_comm, hdraws] at hprobes
  obtain ⟨hshared, hprobing⟩ := hprobes
  rw [← hshared] at hprobed hnew
  have hstill : ((Move.turn position probe :: []).foldl (system rules).step
      ((before.map (Move.turn position)).foldl (system rules).step pool)).shared.table.get?
        draw.articleId = none := by
    rw [List.foldl_cons, List.foldl_nil, step_probing_free hprobing hprobed]
    exact hnew
  have hnothing : Run.StepsMeet (system rules).step
      (LeavesFree rules position (probed rules payload probes))
      ((system rules).step ((before.map (Move.turn position)).foldl (system rules).step pool)
        (.turn position probe)) [] := trivial
  rw [List.append_assoc, List.map_append, List.foldl_append]
  exact created_unless_raced hprobing hprobed probe draw hnothing hstill

theorem creation_completes_second :
    let pool := (system sampleRules).step samplePool (.start (.create sampleCreate "w"))
    ∃ probes, probes ≤ pool.shared.table.rows.length + 1 ∧
      (∀ m, 1 ≤ m → m < probes →
        pool.shared.existsSlug (probed sampleRules sampleCreate m) = true) ∧
      ∀ draws : List Draw, draws.length = probes → ∀ draw : Draw,
        pool.shared.table.get? draw.articleId = none →
        let article := created sampleRules sampleCreate "w"
          (probed sampleRules sampleCreate probes) draw.now
        let last := ((draws ++ [draw]).map (Move.turn 1)).foldl (system sampleRules).step pool
        last.threads[1]? = some (.replied (.article article)) ∧
          last.shared.table.get? draw.articleId = some article :=
  creation_completes (by decide +kernel)

end Runs

/-! ## The shelf

What readers see of the articles, as the deeds alone decide it. -/

/-- The slug of each article, and whether it is public. -/
abbrev Shelf := ArticleId → Option (List Char × Bool)

def Shelf.after (shelf : Shelf) : Deed → Shelf
  | .create articleId slug => Function.update shelf articleId (some (slug, false))
  | .update _ => shelf
  | .publish articleId published =>
    Function.update shelf articleId ((shelf articleId).map fun entry => (entry.1, published))
  | .delete articleId => Function.update shelf articleId none

def Articles.shelf (articles : Articles) : Shelf := fun articleId =>
  (articles.table.get? articleId).map fun article =>
    (article.slug, decide (article.status = .published))

/-- What a run did, in order. -/
def deeds (rules : TextRules) : Pool Articles Request → List (Move Command Draw) → List Deed
  | _, [] => []
  | pool, move :: rest =>
    (moveDeed rules pool move).toList ++ deeds rules ((system rules).step pool move) rest

theorem Does.shelf {articles next : Articles} {deed : Option Deed}
    (hdoes : Does articles deed next) :
    next.shelf = deed.toList.foldl Shelf.after articles.shelf := by
  funext id
  cases hdoes with
  | nothing => rfl
  | create hnew hfree hdraft hnext =>
    simp only [Articles.shelf, hnext, Table.get?_set, Option.toList_some, List.foldl_cons,
      List.foldl_nil, Shelf.after, Function.update_apply]
    split_ifs <;> simp [hdraft]
  | @update articleId _ _ hslug hstored hkept hstatus =>
    simp only [Articles.shelf, Articles.get?_alter, Option.map_map, Option.toList_some,
      List.foldl_cons, List.foldl_nil, Shelf.after]
    congr 1
    funext article
    by_cases hid : id = articleId <;> simp [hid, (hkept article).slug, hstatus]
  | @publish articleId _ published _ hslug hstored hkept hstatus =>
    simp only [Articles.shelf, Articles.get?_alter, Option.map_map, Option.toList_some,
      List.foldl_cons, List.foldl_nil, Shelf.after, Function.update_apply]
    by_cases hid : id = articleId
    · simp only [hid, if_true]
      congr 1
      funext article
      simp [(hkept article).slug, hstatus]
    · simp [hid, Function.comp_def]
  | delete hstored =>
    simp only [Articles.shelf, Articles.get?_delete, Option.toList_some, List.foldl_cons,
      List.foldl_nil, Shelf.after, Function.update_apply]
    split_ifs <;> rfl

/-- The table refines the shelf. -/
theorem shelf_of_run (rules : TextRules) (pool : Pool Articles Request)
    (moves : List (Move Command Draw)) :
    (moves.foldl (system rules).step pool).shared.shelf =
      (deeds rules pool moves).foldl Shelf.after pool.shared.shelf := by
  induction moves generalizing pool with
  | nil => rfl
  | cons move rest ih =>
    rw [List.foldl_cons, ih, deeds, List.foldl_append, (does_step rules pool move).shelf]

theorem exists_getPublicArticle_iff {articles : Articles} {slug : List Char} :
    (∃ article, getPublicArticle articles slug = .ok article) ↔
      ∃ articleId, articles.shelf articleId = some (slug, true) := by
  have hfound (row : ArticleId × Article) : articles.getBySlug slug true = some row ↔
      articles.table.get? row.1 = some row.2 ∧ row.2.slug = slug ∧
        row.2.status = .published := by
    rw [getBySlug_eq_some_iff]
    exact and_congr_right fun _ => and_congr_right fun _ => ⟨fun h => h rfl, fun h _ => h⟩
  rw [getPublicArticle]
  constructor
  · rintro ⟨article, hok⟩
    cases hrow : articles.getBySlug slug true with
    | none => simp [hrow] at hok
    | some row =>
      obtain ⟨hstored, hslug, hstatus⟩ := (hfound row).mp hrow
      exact ⟨row.1, by simp [Articles.shelf, hstored, hslug, hstatus]⟩
  · rintro ⟨articleId, hshelf⟩
    obtain ⟨article, hstored, hentry⟩ := Option.map_eq_some_iff.mp hshelf
    obtain ⟨hslug, hstatus⟩ := Prod.mk.inj hentry
    have hrow := (hfound (articleId, article)).mpr ⟨hstored, hslug, of_decide_eq_true hstatus⟩
    exact ⟨article, by rw [hrow]⟩

/-- After any run, a slug can be read exactly when its article was published last, and has not
been withdrawn or deleted since. -/
theorem public_reads (rules : TextRules) (moves : List (Move Command Draw)) (slug : List Char) :
    (∃ article, getPublicArticle (moves.foldl (system rules).step opened).shared slug =
      .ok article) ↔
        ∃ articleId, (deeds rules opened moves).foldl Shelf.after (fun _ => none) articleId =
          some (slug, true) := by
  rw [exists_getPublicArticle_iff, shelf_of_run]
  rfl

end AutoMana.Content
