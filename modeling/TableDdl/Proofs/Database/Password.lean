import TableDdl.Proofs.Database.Scheme

/-!
# Passwords stay hidden

A database whose URL has a password does and logs what it would with any other password. The
password is what stands between a colon after the user and the next `@` (`Url.withPassword`), and
whatever else is in the text is the same for both.

* `Url.withPassword_of_userInfo`: every password that is found in a text stands there so.
* `Url.parse_withPassword`: the password takes no part in how the rest of the text is read.
* `Percent.decode_ne_empty`: a password that is given is not empty once its escapes are read. A file
  database refuses a URL with one, so that whether it is empty can be seen.
* `Engine.ofUrl_withPassword`: an engine keeps its password in its URL and nowhere else, and whether
  there is an engine does not depend on it. This is all that is asked of the way in which engines
  are made (`Engine.KeepsPassword`).
* `Database.run_withPassword`: the URL is logged with the password hidden, so the replies and the logs
  of a run look the same. The two databases stay in step (`Alike`) though their settings and their
  engines differ.
-/

namespace TableDdl

/-! ## Reading escapes -/

namespace Percent

theorem bytesOf_ne_nil {cs : List Char} (h : cs ≠ []) : bytesOf cs ≠ [] := by
  fun_cases bytesOf cs
  case case4 => exact absurd rfl h
  all_goals exact List.cons_ne_nil _ _

end Percent

theorem Unicode.decodeLossy_ne_empty {bs : List UInt8} (h : bs ≠ []) :
    (decodeLossy bs).toList ≠ [] := by
  rw [decodeLossy, String.toList_ofList, ne_eq, List.map_eq_nil_iff]
  fun_cases scan bs
  case case1 => exact absurd rfl h
  all_goals exact List.cons_ne_nil _ _

namespace Percent

/-- A text that is read leaves something, unless there is nothing in it. -/
theorem decodeFrom_ne_nil {run cs : List Char} (h : run ≠ [] ∨ cs ≠ []) :
    decodeFrom run cs ≠ [] := by
  induction cs generalizing run with
  | nil =>
    have hrun : run.reverse ≠ [] := by simpa using h
    exact Unicode.decodeLossy_ne_empty (bytesOf_ne_nil hrun)
  | cons c cs ih =>
    rw [decodeFrom]
    split
    · exact ih (.inl (List.cons_ne_nil _ _))
    · simp

theorem decode_ne_empty {cs : List Char} (h : cs ≠ []) : decode cs ≠ "" := by
  rw [decode, ne_eq, String.ofList_eq_empty_iff]
  exact decodeFrom_ne_nil (.inr h)

end Percent

namespace Url

/-! ## The place of a password -/

/-- The text of a URL with a password. -/
def withPassword (scheme user rest password : String) : String :=
  scheme ++ "://" ++ user ++ ":" ++ password ++ "@" ++ rest

/-- Neither empty nor broken off by an `@`, which has to be escaped. -/
structure IsPassword (password : String) : Prop where
  ne_empty : password ≠ ""
  unbroken : '@' ∉ password.toList

/-- A scheme and a user that end where the password of a URL is looked for. -/
structure Precede (scheme user : String) : Prop where
  scheme : ':' ∉ scheme.toList
  user : ∀ c ∈ user.toList, c ≠ ':' ∧ c ≠ '/'

theorem toList_withPassword (scheme user rest password : String) :
    (withPassword scheme user rest password).toList
      = scheme.toList ++ ':' :: '/' :: '/' ::
          (user.toList ++ ':' :: (password.toList ++ '@' :: rest.toList)) := by
  simp [withPassword]

/-- A scheme is read up to the first colon or not at all, whatever follows. -/
theorem scheme?_append {scheme : List Char} (h : ':' ∉ scheme) :
    (∀ tail, scheme? (scheme ++ ':' :: '/' :: '/' :: tail) = none) ∨
      ∀ tail, scheme? (scheme ++ ':' :: '/' :: '/' :: tail) = some (scheme, tail) := by
  by_cases hscheme : scheme ≠ [] ∧ ∀ c ∈ scheme, isSchemeChar c
  · exact .inr fun tail => scheme?_eq_some_iff.2 ⟨rfl, hscheme⟩
  · refine .inl fun tail => Option.eq_none_iff_forall_not_mem.2 ?_
    rintro ⟨found, rest⟩ hfound
    have heq : scheme = found := by
      rw [← takeWhile_of_scheme? hfound, takeWhile_append_mark h]
    exact hscheme (heq ▸ (scheme?_eq_some_iff.1 hfound).2)

theorem userInfo_append {user password rest : List Char} (huser : ∀ c ∈ user, c ≠ ':' ∧ c ≠ '/')
    (hpassword : '@' ∉ password) :
    userInfo (user ++ ':' :: (password ++ '@' :: rest)) = (some user, some password, rest) := by
  have hinUser (c : Char) (hc : c ∈ user) : (c != ':' && c != '/') = true := by
    simp [huser c hc]
  have hname (tail : List Char) :
      (user ++ ':' :: tail).takeWhile (fun c => c != ':' && c != '/') = user := by
    rw [List.takeWhile_append_of_pos hinUser, List.takeWhile_cons_of_neg (by decide),
      List.append_nil]
  have hafter (tail : List Char) :
      (user ++ ':' :: tail).dropWhile (fun c => c != ':' && c != '/') = ':' :: tail := by
    rw [List.dropWhile_append_of_pos hinUser, List.dropWhile_cons_of_neg (by decide)]
  unfold userInfo
  simp only [hname, hafter, takeWhile_append_mark hpassword, dropWhile_append_mark hpassword]

theorem userInfo_eq_some {cs password rest : List Char} {user : Option (List Char)}
    (h : userInfo cs = (user, some password, rest)) :
    ∃ name, user = some name ∧ cs = name ++ ':' :: (password ++ '@' :: rest) ∧
      (∀ c ∈ name, c ≠ ':' ∧ c ≠ '/') ∧ '@' ∉ password := by
  unfold userInfo at h
  simp only at h
  split at h
  next tail htail =>
    split at h
    next mark after hafter =>
      cases h
      have hmark : mark = '@' := by
        have hstop := List.head?_dropWhile_not (· != '@') tail
        simpa [hafter] using hstop
      refine ⟨_, rfl, ?_, fun c hc => ?_, fun hat => ?_⟩
      · rw [← hmark, ← hafter, hmark, List.takeWhile_append_dropWhile, ← htail,
          List.takeWhile_append_dropWhile]
      · simpa using List.mem_takeWhile_imp hc
      · simpa using List.mem_takeWhile_imp hat
    · split at h <;> cases h
  · split at h <;> cases h

/-- **A password that is found in a text has its place there.** -/
theorem withPassword_of_userInfo {text : String} {scheme tail password rest : List Char}
    {user : Option (List Char)} (hscheme : scheme? text.toList = some (scheme, tail))
    (huser : userInfo tail = (user, some password, rest)) (hne : password ≠ []) :
    ∃ name, user = some name ∧
      text = withPassword (String.ofList scheme) (String.ofList name) (String.ofList rest)
        (String.ofList password) ∧
      Precede (String.ofList scheme) (String.ofList name) ∧
      IsPassword (String.ofList password) := by
  obtain ⟨htext, -, hchars⟩ := scheme?_eq_some_iff.1 hscheme
  obtain ⟨name, rfl, rfl, hname, hat⟩ := userInfo_eq_some huser
  refine ⟨name, rfl, ?_, ⟨?_, ?_⟩, ⟨?_, ?_⟩⟩
  · rw [← String.toList_inj, htext, toList_withPassword]
    simp only [String.toList_ofList]
  · simpa using colon_notMem hchars
  · simpa using hname
  · simpa using hne
  · simpa using hat

/-- **The password takes no part in how the rest of a text is read.** -/
theorem parse_withPassword {scheme user : String} (h : Precede scheme user) (rest : String)
    {password : String} (hpassword : '@' ∉ password.toList) :
    parse (withPassword scheme user rest password)
      = (parse (withPassword scheme user rest "")).map fun u =>
          { u with password := some (Percent.decode password.toList) } := by
  have huserInfo {word : String} (hword : '@' ∉ word.toList) :
      userInfo (user.toList ++ ':' :: (word.toList ++ '@' :: rest.toList))
        = (some user.toList, some word.toList, rest.toList) :=
    userInfo_append h.user hword
  have hempty : '@' ∉ "".toList := by decide
  unfold parse
  simp only [toList_withPassword]
  rcases scheme?_append h.scheme with hnone | hsome
  · simp only [hnone]
    rfl
  · simp only [hsome, huserInfo hpassword, huserInfo hempty]
    -- whatever follows the password, nothing of it is read with it in view
    split <;> try split
    all_goals rfl

theorem namesServer_congr_password (u : Url) {p q : String} (hp : p ≠ "") (hq : q ≠ "") :
    ({ u with password := some p } : Url).namesServer
      = ({ u with password := some q } : Url).namesServer := by
  have hfull {s : String} (hs : s ≠ "") : (s != "") = true := bne_iff_ne.2 hs
  simp only [namesServer, Option.getD_some, hfull hp, hfull hq]

/-- A file database asks that there be no password, and no database asks what it is. -/
theorem checkConnection_congr_password (database : String) (u : Url) {p q : String} (hp : p ≠ "")
    (hq : q ≠ "") :
    ({ u with password := some p } : Url).checkConnection database
      = ({ u with password := some q } : Url).checkConnection database := by
  unfold checkConnection
  split
  · rw [namesServer_congr_password u hp hq]
    rfl
  · rfl
  · rfl

end Url

/-! ## Engines -/

namespace Engine

/-- The engine with another password. -/
def withPassword (e : Engine) (password : String) : Engine :=
  { e with url := { e.url with password := some password } }

/-- **A password that a URL has goes into the URL of the engine and nowhere else.** With another one
there is the same engine but for the password that it keeps, or none for the same cause. -/
def KeepsPassword (connect : String → Bool → Except EngineError Engine) : Prop :=
  ∀ ⦃scheme user : String⦄, Url.Precede scheme user → ∀ (rest : String) (echo : Bool) ⦃p q : String⦄,
    Url.IsPassword p → Url.IsPassword q → ∃ kept,
      connect (Url.withPassword scheme user rest q) echo
        = (connect (Url.withPassword scheme user rest p) echo).map (withPassword · kept)

theorem ofParsed_withPassword (echo : Bool) (u : Url) {p q : String} (hp : p ≠ "") (hq : q ≠ "") :
    ofParsed echo { u with password := some q }
      = (ofParsed echo { u with password := some p }).map (withPassword · q) := by
  have hcheck (database : String) :
      (withoutPlugins { u with password := some q }).checkConnection database
        = (withoutPlugins { u with password := some p }).checkConnection database :=
    Url.checkConnection_congr_password database (withoutPlugins u) hq hp
  have hplugin (word : String) :
      asksForPlugin { u with password := some word } = asksForPlugin u := rfl
  have hscheme (word : String) :
      (withoutPlugins { u with password := some word }).scheme = u.scheme := rfl
  simp only [ofParsed, hcheck, hplugin, hscheme]
  by_cases hasks : asksForPlugin u = true
  · rw [if_pos hasks, if_pos hasks]
    rfl
  rw [if_neg hasks, if_neg hasks]
  cases schemeParts u.scheme with
  | error err => rfl
  | ok parts =>
    obtain ⟨database, driver⟩ := parts
    cases hkind : driverKind database driver with
    | error err => simp only [bind, Except.bind, hkind]; rfl
    | ok kind =>
      cases hc : (withoutPlugins { u with password := some p }).checkConnection database <;>
        cases kind <;> simp only [bind, Except.bind, hkind, hc] <;> rfl

/-- **A URL with another password stands for the same engine but for its password**, or for none with
the same cause. -/
theorem ofUrl_withPassword {scheme user : String} (h : Url.Precede scheme user) (rest : String)
    (echo : Bool) {p q : String} (hp : Url.IsPassword p) (hq : Url.IsPassword q) :
    ofUrl (Url.withPassword scheme user rest q) echo
      = (ofUrl (Url.withPassword scheme user rest p) echo).map
          (withPassword · (Percent.decode q.toList)) := by
  have hdecode {password : String} (hpassword : Url.IsPassword password) :
      Percent.decode password.toList ≠ "" :=
    Percent.decode_ne_empty (String.toList_eq_nil_iff.not.2 hpassword.ne_empty)
  rw [ofUrl_eq_bind, ofUrl_eq_bind, Url.parse_withPassword h rest hp.unbroken,
    Url.parse_withPassword h rest hq.unbroken]
  cases Url.parse (Url.withPassword scheme user rest "") with
  | error err => rfl
  | ok u => exact ofParsed_withPassword echo u (hdecode hp) (hdecode hq)

theorem keepsPassword_ofUrl : KeepsPassword ofUrl :=
  fun _ _ h rest echo _ _ hp hq => ⟨_, ofUrl_withPassword h rest echo hp hq⟩

end Engine

/-! ## What can be seen -/

/-- What can be seen of an engine: its database, whether it echoes, and its URL as it is written with
the password hidden. -/
structure Engine.View where
  dialectName : String
  echo : Bool
  url : String
  deriving DecidableEq, Repr

def Engine.view (e : Engine) : Engine.View := ⟨e.dialectName, e.echo, e.url.render true⟩

theorem Engine.view_withPassword (e : Engine) (p q : String) :
    (e.withPassword p).view = (e.withPassword q).view := by
  have hurl : (e.withPassword p).url.render true = (e.withPassword q).url.render true :=
    Url.render_congr_password e.url p q
  unfold view
  rw [hurl]
  rfl

def NumberedEngine.view (e : NumberedEngine) : Nat × Engine.View := ⟨e.number, e.engine.view⟩

namespace Database

/-- What can be seen of an answer: its engine, and the dialect of an executor. -/
def Answer.view : Answer → Option ((Nat × Engine.View) × Option Dialect)
  | .engine e => some (e.view, none)
  | .executor e d => some (e.view, some d)
  | .disconnected => none

/-- What can be seen of a reply: what it answers or why it fails, and its logs. -/
structure Reply.View where
  result : Except DatabaseError (Option ((Nat × Engine.View) × Option Dialect))
  logs : List LogEvent

def Reply.view (r : Reply) : Reply.View := ⟨r.result.map Answer.view, r.logs⟩

/-- What can be seen of a run: the replies, and whether an engine is held after each of them. -/
def seen (start : Database) (steps : List Step) : List (Reply.View × Bool) :=
  (start.run steps).2.map fun r => (r.1.view, r.2)

/-! ## Runs -/

/-- The engines that are held look the same, as many have been made, and the next ones will look the
same. -/
structure Alike (a b : Database) : Prop where
  held_eq : a.held.map NumberedEngine.view = b.held.map NumberedEngine.view
  made_eq : a.made = b.made
  connect_eq : (a.connect a.settings.databaseUrl a.settings.dbEcho).map Engine.view
    = (b.connect b.settings.databaseUrl b.settings.dbEcho).map Engine.view

/-- Databases that are alike get engines that look the same, or none. -/
inductive GotAlike : Except EngineError (Database × NumberedEngine × List LogEvent) →
    Except EngineError (Database × NumberedEngine × List LogEvent) → Prop where
  | error (err : EngineError) : GotAlike (.error err) (.error err)
  | ok {a b : Database} (h : Alike a b) {e f : NumberedEngine} (hview : e.view = f.view)
      (logs : List LogEvent) : GotAlike (.ok (a, e, logs)) (.ok (b, f, logs))

namespace Alike
variable {a b : Database} (h : Alike a b)
include h

theorem held_cases : (a.held = none ∧ b.held = none) ∨
    ∃ e f, a.held = some e ∧ b.held = some f ∧ e.view = f.view := by
  have hheld := h.held_eq
  cases ha : a.held <;> cases hb : b.held <;> rw [ha, hb] at hheld
  case none.none => exact .inl ⟨rfl, rfl⟩
  case some.some e f => exact .inr ⟨e, f, rfl, rfl, Option.some.inj hheld⟩
  all_goals cases hheld

/-- **An engine is logged as it is seen.** -/
theorem getEngine : GotAlike a.getEngine b.getEngine := by
  unfold Database.getEngine
  rcases h.held_cases with ⟨ha, hb⟩ | ⟨e, f, ha, hb, hview⟩
  · rw [ha, hb]
    rcases map_eq_map h.connect_eq with ⟨err, hca, hcb⟩ | ⟨e, f, hca, hcb, hview⟩
    · simp only [hca, hcb]
      exact .error err
    · have hurl : e.url.render true = f.url.render true := congrArg Engine.View.url hview
      have hnumbered : NumberedEngine.view ⟨a.made, e⟩ = NumberedEngine.view ⟨b.made, f⟩ :=
        Prod.ext h.made_eq hview
      have hnext : Alike { a with held := some ⟨a.made, e⟩, made := a.made + 1 }
          { b with held := some ⟨b.made, f⟩, made := b.made + 1 } :=
        ⟨congrArg some hnumbered, congrArg (· + 1) h.made_eq, h.connect_eq⟩
      simp only [hca, hcb, bind, Except.bind, pure, Except.pure, hurl]
      exact .ok hnext hnumbered _
  · rw [ha, hb]
    exact .ok h hview []

/-- **Databases that are alike give replies that look the same, and stay alike.** -/
theorem step (st : Step) :
    Alike (a.step st).1 (b.step st).1 ∧ (a.step st).2.view = (b.step st).2.view := by
  have hgot := h.getEngine
  cases st with
  | engine =>
    unfold Database.step
    generalize a.getEngine = got, b.getEngine = got' at hgot
    cases hgot with
    | error err => exact ⟨h, rfl⟩
    | ok hnext hview logs =>
      refine ⟨hnext, ?_⟩
      simp only [Reply.view, Except.map, Answer.view, hview]
  | executor =>
    unfold Database.step
    generalize a.getEngine = got, b.getEngine = got' at hgot
    cases hgot with
    | error err => exact ⟨h, rfl⟩
    | @ok _ _ hnext e f hview logs =>
      have hname : e.engine.dialectName = f.engine.dialectName :=
        congrArg (fun v => v.2.dialectName) hview
      simp only [hname]
      cases Dialect.ofName (.str f.engine.dialectName) with
      | error err => exact ⟨hnext, rfl⟩
      | ok d =>
        refine ⟨hnext, ?_⟩
        simp only [Reply.view, Except.map, Answer.view, hview]
  | disconnect =>
    unfold Database.step
    rcases h.held_cases with ⟨ha, hb⟩ | ⟨e, f, ha, hb, -⟩
    · rw [ha, hb]
      exact ⟨h, rfl⟩
    · rw [ha, hb]
      exact ⟨⟨rfl, h.made_eq, h.connect_eq⟩, rfl⟩

theorem isSome_held : a.held.isSome = b.held.isSome := by
  rw [← Option.isSome_map, h.held_eq, Option.isSome_map]

theorem seen_eq (steps : List Step) : a.seen steps = b.seen steps := by
  induction steps generalizing a b with
  | nil => rfl
  | cons st steps ih =>
    obtain ⟨hnext, hreply⟩ := h.step st
    have hrest := ih hnext
    unfold Database.seen at hrest ⊢
    simp only [Database.run, List.map_cons]
    rw [hreply, hnext.isSome_held, hrest]

end Alike

/-- The database of a program with these settings, apart from the URL. -/
def withUrl (settings : Settings) (connect : String → Bool → Except EngineError Engine)
    (url : String) : Database :=
  { settings := { settings with databaseUrl := url }, connect }

/-- **The password of a database cannot be told from what can be seen of it**, however engines are
made, as long as they keep it in their URLs: under two settings that differ in nothing but the
password of the URL, every sequence of steps has the same replies, with engines of the same URLs as
they are written, the same errors and the same logs. -/
theorem run_withPassword {connect : String → Bool → Except EngineError Engine}
    (hkeeps : Engine.KeepsPassword connect) {scheme user : String} (h : Url.Precede scheme user)
    (rest : String) {p q : String} (hp : Url.IsPassword p) (hq : Url.IsPassword q)
    (settings : Settings) (steps : List Step) :
    (withUrl settings connect (Url.withPassword scheme user rest p)).seen steps
      = (withUrl settings connect (Url.withPassword scheme user rest q)).seen steps := by
  obtain ⟨kept, hkept⟩ := hkeeps h rest settings.dbEcho hp hp
  obtain ⟨other, hother⟩ := hkeeps h rest settings.dbEcho hp hq
  have hview : (connect (Url.withPassword scheme user rest p) settings.dbEcho).map Engine.view
      = (connect (Url.withPassword scheme user rest q) settings.dbEcho).map Engine.view := by
    rw [hother]
    cases hconnect : connect (Url.withPassword scheme user rest p) settings.dbEcho with
    | error err => rfl
    | ok e =>
      rw [hconnect] at hkept
      have he : e = e.withPassword kept := Except.ok.inj hkept
      show Except.ok e.view = Except.ok (e.withPassword other).view
      rw [← Engine.view_withPassword e kept other, ← he]
  have halike : Alike (withUrl settings connect (Url.withPassword scheme user rest p))
      (withUrl settings connect (Url.withPassword scheme user rest q)) := ⟨rfl, rfl, hview⟩
  exact halike.seen_eq steps

/-- A shop with a server of its own. -/
def shopUrl (password : String) : String :=
  Url.withPassword "postgresql+asyncpg" "app" "db:5432/shop" password

theorem run_withPassword_shop :
    (∀ password ∈ ["se:cr/et", "%40dmin"],
      Settings.load { arguments := [("database_url", .str (shopUrl password))] }
        = .ok { databaseUrl := shopUrl password } ∧
      (Engine.ofUrl (shopUrl password) false).map Engine.view
        = .ok ⟨"postgresql", false, "postgresql+asyncpg://app:***@db:5432/shop"⟩) ∧
    Engine.KeepsPassword Engine.ofUrl ∧ Url.Precede "postgresql+asyncpg" "app" ∧
    Url.IsPassword "se:cr/et" ∧ Url.IsPassword "%40dmin" ∧
    (withUrl {} Engine.ofUrl (shopUrl "se:cr/et")).seen [.executor, .disconnect, .engine]
      = (withUrl {} Engine.ofUrl (shopUrl "%40dmin")).seen [.executor, .disconnect, .engine] := by
  have hprecede : Url.Precede "postgresql+asyncpg" "app" := ⟨by decide, by simp⟩
  have hsecret : Url.IsPassword "se:cr/et" := ⟨by decide, by decide⟩
  have hadmin : Url.IsPassword "%40dmin" := ⟨by decide, by decide⟩
  exact ⟨by decide +kernel, Engine.keepsPassword_ofUrl, hprecede, hsecret, hadmin,
    run_withPassword Engine.keepsPassword_ofUrl hprecede "db:5432/shop" hsecret hadmin {} _⟩

end Database
end TableDdl
