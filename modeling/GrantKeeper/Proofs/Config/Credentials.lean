/-
The user and the password in an address that is made of its parts.

Whatever they hold, they stand in the address where its reader looks for them, since none of the
signs by which it is divided is left in their written forms (`hasUserinfo_databaseAddress`).  What
is read back of each is another matter: the written form of a blank is a plus, and percent decoding
leaves a plus as it is.
-/
import GrantKeeper.Config.Settings
import GrantKeeper.Database.Address
import GrantKeeper.Proofs.Config.Percent

namespace GrantKeeper

namespace Address

theorem upTo_append {stops cs rest : List Char} {stop : Char} (hcs : ∀ c ∈ cs, c ∉ stops)
    (hstop : stop ∈ stops) : upTo stops (cs ++ stop :: rest) = (cs, stop :: rest) := by
  have hbefore : ∀ c ∈ cs, (!stops.contains c) = true := by
    intro c hc
    simpa using hcs c hc
  have hat : ¬(!stops.contains stop) = true := by simpa using hstop
  simp only [upTo, List.takeWhile_append_of_pos hbefore, List.dropWhile_append_of_pos hbefore,
    List.takeWhile_cons, List.dropWhile_cons, if_neg hat, List.append_nil]

/-- The user ends at the first colon and the password at the first at sign, if there is no slash
before the colon. -/
theorem credentials_append {user password place : List Char}
    (huser : ∀ c ∈ user, c ∉ [':', '/']) (hpassword : '@' ∉ password) :
    credentials (user ++ ':' :: (password ++ '@' :: place)) =
      (some (String.ofList user), some (String.ofList password), place) := by
  have hfirst : upTo [':', '/'] (user ++ ':' :: (password ++ '@' :: place)) =
      (user, ':' :: (password ++ '@' :: place)) := upTo_append huser (List.mem_cons_self ..)
  have hsecond : upTo ['@'] (password ++ '@' :: place) = (password, '@' :: place) :=
    upTo_append (fun c hc h => hpassword (List.mem_singleton.mp h ▸ hc)) (List.mem_cons_self ..)
  simp only [credentials, hfirst, hsecond]

/-- What is read of an address begins with the user and the password. -/
theorem credentials_of_parse {scheme : String} (hscheme : scheme ≠ "")
    (hchars : ∀ c ∈ scheme.toList, isSchemeChar c = true) {s : String} {rest : List Char}
    (hs : s.toList = scheme.toList ++ ':' :: '/' :: '/' :: rest) {address : Address}
    (h : parse s = .ok address) :
    address.user = (credentials rest).1 ∧ address.password = (credentials rest).2.1 := by
  have hcolon : ¬isSchemeChar ':' = true := by decide
  have htake : s.toList.takeWhile isSchemeChar = scheme.toList := by
    rw [hs, List.takeWhile_append_of_pos hchars, List.takeWhile_cons_of_neg hcolon,
      List.append_nil]
  have hdrop : s.toList.dropWhile isSchemeChar = ':' :: '/' :: '/' :: rest := by
    rw [hs, List.dropWhile_append_of_pos hchars, List.dropWhile_cons_of_neg hcolon]
  obtain ⟨c, cs, hcons⟩ := List.exists_cons_of_ne_nil (mt String.toList_eq_nil_iff.mp hscheme)
  simp only [parse, htake, hdrop, hcons] at h
  obtain ⟨_, _, h⟩ := Except.bind_eq_ok h
  cases h
  exact ⟨rfl, rfl⟩

/-- In an address of a server stand, before the host, the written forms of a user and a password:
between the slashes and the at sign there is one colon and no sign by which an address is divided,
and its reader finds both. -/
structure HasUserinfo (address user password : String) : Prop where
  exists_place : ∃ place : String,
    address = "postgresql://" ++ (user ++ ":" ++ password) ++ "@" ++ place ∧
    credentials (user ++ ":" ++ password ++ "@" ++ place).toList =
      (some user, some password, place.toList)
  undivided : ∀ sign ∈ ['@', '/', '?'], sign ∉ (user ++ ":" ++ password).toList
  count_colon : (user ++ ":" ++ password).toList.count ':' = 1
  parsed : ∀ read, parse address = .ok read →
    read.user = some user ∧ read.password = some password

/-- An address has one user and one password. -/
theorem HasUserinfo.unique {address user password user' password' : String}
    (h : HasUserinfo address user password) (h' : HasUserinfo address user' password') :
    user = user' ∧ password = password' := by
  obtain ⟨place, haddress, hread⟩ := h.exists_place
  obtain ⟨place', haddress', hread'⟩ := h'.exists_place
  -- Behind the slashes stands one text, and the reader has one answer for it.
  have hsame := congrArg String.toList (haddress.symm.trans haddress')
  simp only [String.toList_append, List.append_assoc, List.append_cancel_left_eq] at hsame
  simp only [String.toList_append, List.append_assoc] at hread hread'
  rw [hsame, hread', Prod.mk.injEq, Prod.mk.injEq, Option.some_inj, Option.some_inj] at hread
  exact ⟨hread.1.symm, hread.2.1.symm⟩

/-- Two texts without any sign of an address are found where they stand. -/
theorem hasUserinfo_of_undivided {user password : String} (place : String)
    (huser : ∀ sign ∈ [':', '@', '/', '?'], sign ∉ user.toList)
    (hpassword : ∀ sign ∈ [':', '@', '/', '?'], sign ∉ password.toList) :
    HasUserinfo ("postgresql://" ++ (user ++ ":" ++ password) ++ "@" ++ place) user password := by
  have hread : credentials (user ++ ":" ++ password ++ "@" ++ place).toList =
      (some user, some password, place.toList) := by
    have hstops : ∀ c ∈ user.toList, c ∉ [':', '/'] := fun c hc h =>
      huser c (by simp only [List.mem_cons, List.not_mem_nil, or_false] at h ⊢; tauto) hc
    have happend : credentials (user.toList ++ ':' :: (password.toList ++ '@' :: place.toList)) =
        (some (String.ofList user.toList), some (String.ofList password.toList), place.toList) :=
      credentials_append hstops (hpassword '@' (by decide))
    rw [String.ofList_toList, String.ofList_toList] at happend
    simpa [String.toList_append] using happend
  refine ⟨⟨place, rfl, hread⟩, ?_, ?_, ?_⟩
  · intro sign hsign hmem
    simp only [String.toList_append, List.mem_append] at hmem
    have hsign' : sign ∈ [':', '@', '/', '?'] := List.mem_cons_of_mem _ hsign
    rcases hmem with (hmem | hmem) | hmem
    · exact huser sign hsign' hmem
    · rw [List.mem_singleton.mp hmem] at hsign
      exact absurd hsign (by decide)
    · exact hpassword sign hsign' hmem
  · have hcolon : ':' ∈ [':', '@', '/', '?'] := List.mem_cons_self ..
    rw [String.toList_append, String.toList_append, List.count_append, List.count_append,
      List.count_eq_zero.mpr (huser ':' hcolon), List.count_eq_zero.mpr (hpassword ':' hcolon)]
    rfl
  · intro read h
    have hscheme : "postgresql".toList.all isSchemeChar = true := by decide
    have hs : ("postgresql://" ++ (user ++ ":" ++ password) ++ "@" ++ place).toList =
        "postgresql".toList ++
          ':' :: '/' :: '/' :: (user ++ ":" ++ password ++ "@" ++ place).toList := by
      simp only [String.toList_append, List.append_assoc]
      rfl
    have hfound := credentials_of_parse (by decide) (List.all_eq_true.mp hscheme) hs h
    rwa [hread] at hfound

end Address

/-! ## Settings -/

/-- No sign of an address is left in a written form. -/
theorem Percent.not_mem_encode (s : String) :
    ∀ sign ∈ [':', '@', '/', '?'], sign ∉ (Percent.encode s).toList := by
  intro sign hsign hmem
  have hnone : ([':', '@', '/', '?'].all fun sign => !Percent.isWritten sign) = true := by decide
  have hsign' : Percent.isWritten sign = false := by
    simpa using List.all_eq_true.mp hnone sign hsign
  exact Bool.false_ne_true (hsign'.symm.trans (Percent.isWritten_of_mem_encode hmem))

theorem Settings.hasUserinfo_databaseAddress {s : Settings} (h : s.databaseUrl = "") :
    Address.HasUserinfo s.databaseAddress (Percent.encode s.serverUser)
      (Percent.encode s.serverPassword) := by
  have haddress : s.databaseAddress =
      "postgresql://" ++ (Percent.encode s.serverUser ++ ":" ++ Percent.encode s.serverPassword) ++
        "@" ++ (s.serverHost ++ ":" ++ String.ofList (decimalInt s.serverSocket) ++ "/" ++
          s.serverDatabase) := by
    rw [Settings.databaseAddress, if_neg (not_not_intro h)]
    simp [← String.toList_inj, toString]
  rw [haddress]
  exact Address.hasUserinfo_of_undivided _ (Percent.not_mem_encode _) (Percent.not_mem_encode _)

/-- The user and the password of settings stand in the address that is made of them, and percent
decoding gives a plus for each of their blanks: what is read is the user exactly if the user has no
blank, and likewise the password.  A reader that takes a plus for a blank gets both. -/
theorem Settings.credentials_databaseAddress {s : Settings} (h : s.databaseUrl = "") :
    ∃ user password : String,
      Address.HasUserinfo s.databaseAddress user password ∧
      Percent.decode? user = some (Percent.blanksAsPlus s.serverUser) ∧
      Percent.decode? password = some (Percent.blanksAsPlus s.serverPassword) ∧
      (Percent.decode? user = some s.serverUser ↔ ' ' ∉ s.serverUser.toList) ∧
      (Percent.decode? password = some s.serverPassword ↔ ' ' ∉ s.serverPassword.toList) ∧
      Query.decode user.toList = s.serverUser ∧
      Query.decode password.toList = s.serverPassword :=
  ⟨Percent.encode s.serverUser, Percent.encode s.serverPassword, s.hasUserinfo_databaseAddress h,
    Percent.decode?_encode _, Percent.decode?_encode _, Percent.decode?_encode_eq_self_iff,
    Percent.decode?_encode_eq_self_iff, Query.decode_encode _, Query.decode_encode _⟩

/-- Settings that name a server by its parts. -/
def Settings.ofServer (user password : String) : Settings where
  appName := "OAuth2 Authorization Core"
  appVersion := "1.0.0"
  debug := false
  environment := "development"
  databaseUrl := ""
  serverHost := "localhost"
  serverSocket := 5432
  serverDatabase := "authcore_db"
  serverUser := user
  serverPassword := password
  poolSize := 30
  poolOverflow := 20
  logLevel := "INFO"
  logFile := ""
  initMode := "migrate"
  requireHead := true

/-- Without a blank, signs of an address and letters of any alphabet are read back. -/
theorem Settings.credentials_databaseAddress_sample :
    (Settings.ofServer "a:b@c" "p@ss/wörd?+%").databaseUrl = "" ∧
      ∃ user password : String,
        Address.HasUserinfo (Settings.ofServer "a:b@c" "p@ss/wörd?+%").databaseAddress user
          password ∧
        Percent.decode? user = some "a:b@c" ∧ Percent.decode? password = some "p@ss/wörd?+%" := by
  obtain ⟨user, password, hstand, _, _, huser, hpassword, _⟩ :=
    Settings.credentials_databaseAddress (s := Settings.ofServer "a:b@c" "p@ss/wörd?+%") rfl
  exact ⟨rfl, user, password, hstand, huser.mpr (by decide), hpassword.mpr (by decide)⟩

/-- Percent decoding does not give every password back: `pass word` comes back as `pass+word`. -/
theorem Settings.credentials_databaseAddress_not_exact :
    ¬∀ s : Settings, s.databaseUrl = "" → ∃ user password : String,
      Address.HasUserinfo s.databaseAddress user password ∧
      Percent.decode? user = some s.serverUser ∧
      Percent.decode? password = some s.serverPassword := by
  intro h
  obtain ⟨user, password, hstand, _, hpassword⟩ := h (Settings.ofServer "auth" "pass word") rfl
  obtain ⟨_, hwritten⟩ := hstand.unique (Settings.hasUserinfo_databaseAddress rfl)
  rw [hwritten, Percent.decode?_encode_eq_self_iff] at hpassword
  exact hpassword (by decide)

end GrantKeeper
