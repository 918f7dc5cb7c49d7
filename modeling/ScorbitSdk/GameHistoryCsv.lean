import Mathlib
import ScorbitSdk.CsvRecords
import ScorbitSdk.GameStateRuns

/-!
# The game history as comma-separated records

`gameHistoryToCsv` writes one line for each row of a game's history.  The rows
handed over by the game state machine can be read back exactly when no player
beyond the last score column takes part and no mode contains a quote.
-/

namespace ScorbitSdk

def absoluteMaxPlayersNum : Nat := 6

/-- The whole seconds of a count of nanoseconds, rounded towards zero. -/
def durationCastSeconds (nanoseconds : Int) : Int :=
  nanoseconds.tdiv 1000000000

/-- The score columns' players. -/
def scorePlayers : List Nat :=
  List.range' 1 absoluteMaxPlayersNum

/-- A player who is absent or has a negative score has an empty field. -/
def scoreText (data : GameData) (playerNum : Nat) : String :=
  match data.players.lookup playerNum with
  | some state => if state.score ≥ 0 then toString state.score else ""
  | none => ""

def csvHeader : String :=
  "time" ++
    String.join (scorePlayers.map fun playerNum => ",p" ++ toString playerNum) ++
    ",player,ball,game_modes\n"

def csvModes (modes : Modes) : String :=
  if modes.isEmpty then "" else "\"" ++ modes.str ++ "\""

def csvRow (data : GameData) : String :=
  toString (durationCastSeconds data.timestamp) ++ "," ++
    String.join
      (scorePlayers.map fun playerNum => scoreText data playerNum ++ ",") ++
    toString data.activePlayer ++ "," ++ toString data.ball ++ "," ++
    csvModes data.modes ++ "\n"

def gameHistoryToCsv (history : GameHistory) : String :=
  csvHeader ++ String.join (history.map csvRow)

namespace GameHistoryCsv

/-- The record from which a row can be recovered: the score of every player
present, the active player, the ball and the modes. -/
structure RowRecovered (header : Csv.CsvRecord) (data : GameData)
    (record : Csv.CsvRecord) : Prop where
  sameLength : record.length = header.length
  scores : ∀ player state, data.players.lookup player = some state →
    (Csv.column header record ("p" ++ toString player)).bind
      String.toInt? = some state.score
  activePlayer : (Csv.column header record "player").bind String.toNat? =
    some data.activePlayer
  ball : (Csv.column header record "ball").bind String.toNat? =
    some data.ball
  modes : Csv.column header record "game_modes" = some data.modes.str

/-- Reading the text yields a header and one record for each row, in order,
from which the rows are recovered. -/
def Recovered (history : GameHistory) : Prop :=
  ∃ header records,
    Csv.read (gameHistoryToCsv history) = some (header :: records) ∧
      List.Forall₂ (RowRecovered header) history records

/-- The fields before the modes. -/
def leadingFields (data : GameData) : Csv.CsvRecord :=
  toString (durationCastSeconds data.timestamp) ::
    (scorePlayers.map (scoreText data) ++
      [toString data.activePlayer, toString data.ball])

def header : Csv.CsvRecord :=
  ["time", "p1", "p2", "p3", "p4", "p5", "p6", "player", "ball", "game_modes"]

theorem plain_of_isDigit {char : Char} (isDigit : char.isDigit = true) :
    Csv.PlainChar char := by
  refine ⟨?_, ?_, ?_, ?_⟩ <;> rintro rfl <;> exact absurd isDigit (by decide)

theorem plain_nat (count : Nat) :
    ∀ char ∈ (toString count).toList, Csv.PlainChar char := by
  intro char member
  rw [Nat.toString_eq_repr, Nat.toList_repr] at member
  exact plain_of_isDigit
    (Nat.isDigit_of_mem_toDigits (by decide) (by decide) member)

theorem plain_int (value : Int) :
    ∀ char ∈ (toString value).toList, Csv.PlainChar char := by
  intro char member
  cases value with
  | ofNat count =>
      have same : toString (Int.ofNat count) = toString count := rfl
      rw [same] at member
      exact plain_nat count char member
  | negSucc count =>
      have split : (toString (Int.negSucc count)).toList =
          '-' :: (toString (count + 1)).toList := by
        simp [toString, Int.repr]
      rw [split] at member
      rcases List.mem_cons.mp member with rfl | digit
      · refine ⟨?_, ?_, ?_, ?_⟩ <;> decide
      · exact plain_nat (count + 1) char digit

theorem plain_scoreText (data : GameData) (playerNum : Nat) :
    ∀ char ∈ (scoreText data playerNum).toList, Csv.PlainChar char := by
  unfold scoreText
  split
  · split
    · exact plain_int _
    · simp
  · simp

theorem readFrom_header (input : List Char) :
    Csv.readFrom .plain [] [] (csvHeader.toList ++ input) =
      (Csv.readFrom .plain [] [] input).map (header :: ·) := by
  have text : csvHeader.toList =
      "time,p1,p2,p3,p4,p5,p6,player,ball,game_modes\n".toList := by
    decide
  rw [text]
  rfl

theorem csvRow_eq (data : GameData) :
    csvRow data = String.join ((leadingFields data).map (· ++ ",")) ++
      (csvModes data.modes ++ "\n") := by
  simp [csvRow, leadingFields, Function.comp_def, String.append_assoc]

/-- A row is read up to its modes whatever comes after. -/
theorem readFrom_leading (data : GameData) (input : List Char) :
    Csv.readFrom .plain [] [] ((csvRow data).toList ++ input) =
      Csv.readFrom .plain (leadingFields data) []
        ((csvModes data.modes).toList ++ '\n' :: input) := by
  have isPlain : ∀ text ∈ leadingFields data,
      ∀ char ∈ text.toList, Csv.PlainChar char := by
    intro text member
    simp only [leadingFields, List.mem_cons, List.mem_append, List.mem_map,
      List.not_mem_nil, or_false] at member
    rcases member with rfl | ⟨player, -, rfl⟩ | rfl | rfl
    · exact plain_int _
    · exact plain_scoreText data player
    · exact plain_nat _
    · exact plain_nat _
  have split : (csvRow data).toList ++ input =
      (String.join ((leadingFields data).map (· ++ ","))).toList ++
        ((csvModes data.modes).toList ++ '\n' :: input) := by
    rw [csvRow_eq]
    simp
  rw [split, Csv.readFrom_plain_fields isPlain, List.nil_append]

theorem mem_foldl_str {char : Char} (notSemicolon : char ≠ ';')
    (front : String) (rest : List String) :
    char ∈ (rest.foldl (fun a b => a ++ ";" ++ b) front).toList ↔
      ∃ mode ∈ front :: rest, char ∈ mode.toList := by
  induction rest generalizing front with
  | nil => simp
  | cons next rest ih =>
      rw [List.foldl_cons, ih]
      simp [notSemicolon, or_assoc]

theorem mem_str {char : Char} (notSemicolon : char ≠ ';') (modes : Modes) :
    char ∈ modes.str.toList ↔ ∃ mode ∈ modes.modes, char ∈ mode.toList := by
  cases modesEq : modes.modes with
  | nil => simp [Modes.str, modesEq]
  | cons front rest =>
      simp only [Modes.str, modesEq]
      exact mem_foldl_str notSemicolon front rest

def rowRecord (data : GameData) : Csv.CsvRecord :=
  leadingFields data ++ [data.modes.str]

theorem readFrom_row {data : GameData}
    (noQuote : '"' ∉ data.modes.str.toList) (input : List Char) :
    Csv.readFrom .plain [] [] ((csvRow data).toList ++ input) =
      (Csv.readFrom .plain [] [] input).map (rowRecord data :: ·) := by
  rw [readFrom_leading]
  by_cases isEmpty : data.modes.modes = []
  · have noModes : data.modes.str = "" := by simp [Modes.str, isEmpty]
    have noText : csvModes data.modes = "" := by
      simp [csvModes, Modes.isEmpty, isEmpty]
    rw [noText, rowRecord, noModes]
    exact @Csv.readFrom_plain_last [] (by simp) _ _
  · have text : (csvModes data.modes).toList ++ '\n' :: input =
        '"' :: (data.modes.str.toList ++ '"' :: '\n' :: input) := by
      simp [csvModes, Modes.isEmpty, isEmpty]
    rw [text, Csv.readFrom_quoted_last noQuote, String.ofList_toList]
    rfl

theorem readFrom_row_unescaped {data : GameData}
    (hasQuote : '"' ∈ data.modes.str.toList) {input : List Char}
    {records : List Csv.CsvRecord}
    (accepted : Csv.readFrom .plain [] []
      ((csvRow data).toList ++ input) = some records) :
    ∃ record others, records = record :: others ∧
      record[(leadingFields data).length]? ≠ some data.modes.str := by
  have notEmpty : data.modes.modes ≠ [] := by
    intro isEmpty
    simp [Modes.str, isEmpty] at hasQuote
  have text : (csvModes data.modes).toList ++ '\n' :: input =
      '"' :: (data.modes.str.toList ++ '"' :: '\n' :: input) := by
    simp [csvModes, Modes.isEmpty, notEmpty]
  rw [readFrom_leading, text] at accepted
  simpa only [String.ofList_toList] using
    Csv.readFrom_unescaped hasQuote accepted

theorem column_score (data : GameData) {player : Nat}
    (inRange : 1 ≤ player ∧ player ≤ absoluteMaxPlayersNum) :
    Csv.column header (rowRecord data) ("p" ++ toString player) =
      some (scoreText data player) := by
  obtain ⟨atLeast, atMost⟩ := inRange
  unfold absoluteMaxPlayersNum at atMost
  interval_cases player <;> rfl

/-- A column belongs to a player with a score column, or its name goes on with
something else than a number. -/
theorem header_names : ∀ name ∈ header,
    (∃ player ≤ absoluteMaxPlayersNum, name = "p" ++ toString player) ∨
      ∃ char ∈ name.toList.drop 1, char.isDigit = false := by
  simp only [header, List.forall_mem_cons]
  refine ⟨Or.inr ⟨'i', by decide, by decide⟩, Or.inl ⟨1, by decide, rfl⟩,
    Or.inl ⟨2, by decide, rfl⟩, Or.inl ⟨3, by decide, rfl⟩,
    Or.inl ⟨4, by decide, rfl⟩, Or.inl ⟨5, by decide, rfl⟩,
    Or.inl ⟨6, by decide, rfl⟩, Or.inr ⟨'l', by decide, by decide⟩,
    Or.inr ⟨'a', by decide, by decide⟩, Or.inr ⟨'a', by decide, by decide⟩, ?_⟩
  simp

/-- Players beyond the last score column have no column. -/
theorem column_none {record : Csv.CsvRecord}
    (sameLength : record.length = header.length) {player : Nat}
    (beyond : absoluteMaxPlayersNum < player) :
    Csv.column header record ("p" ++ toString player) = none := by
  have absent : "p" ++ toString player ∉ header := by
    intro member
    have digits : ("p" ++ toString player).toList.drop 1 =
        Nat.toDigits 10 player := by
      simp
    rcases header_names _ member with
      ⟨other, atMost, same⟩ | ⟨char, charMember, notDigit⟩
    · have sameDigits : player.repr.toList = other.repr.toList := by
        have chars := congrArg (·.toList.drop 1) same
        simpa using chars
      have samePlayer : player = other :=
        Nat.repr_inj.mp (String.toList_inj.mp sameDigits)
      omega
    · rw [digits] at charMember
      have isDigit : char.isDigit = true :=
        Nat.isDigit_of_mem_toDigits (by decide) (by decide) charMember
      rw [isDigit] at notDigit
      cases notDigit
  rw [Csv.column, List.idxOf_eq_length absent, ← sameLength]
  exact List.getElem?_eq_none (Nat.le_refl _)

def Nonnegative (players : Players) : Prop :=
  ∀ player state, players.lookup player = some state → 0 ≤ state.score

theorem rowRecovered {data : GameData}
    (inRange : ∀ player ∈ data.players,
      1 ≤ player ∧ player ≤ absoluteMaxPlayersNum)
    (nonnegative : Nonnegative data.players) :
    RowRecovered header data (rowRecord data) where
  sameLength := rfl
  scores := by
    intro player state present
    have member : player ∈ data.players := by
      rw [← Finmap.lookup_isSome, present]
      rfl
    have text : scoreText data player = toString state.score := by
      simp [scoreText, present, nonnegative player state present]
    rw [column_score data (inRange player member), text]
    exact Int.toInt?_repr state.score
  activePlayer := Nat.toNat?_repr data.activePlayer
  ball := Nat.toNat?_repr data.ball
  modes := rfl

/-- A text that is read back into the rows comes from rows that can be. -/
theorem rows_of_readFrom {history : GameHistory} {records : List Csv.CsvRecord}
    (accepted : Csv.readFrom .plain [] []
      (String.join (history.map csvRow)).toList = some records)
    (recovered : List.Forall₂ (RowRecovered header) history records) :
    ∀ data ∈ history,
      (∀ player ∈ data.players, player ≤ absoluteMaxPlayersNum) ∧
        ∀ mode ∈ data.modes.modes, '"' ∉ mode.toList := by
  induction history generalizing records with
  | nil => simp
  | cons data history ih =>
      have split : (String.join ((data :: history).map csvRow)).toList =
          (csvRow data).toList ++
            (String.join (history.map csvRow)).toList := by
        simp
      rw [split] at accepted
      cases recovered with
      | cons first others =>
        rename_i record records
        have noQuote : '"' ∉ data.modes.str.toList := by
          intro hasQuote
          obtain ⟨read, _, recordsEq, different⟩ :=
            readFrom_row_unescaped hasQuote accepted
          obtain ⟨rfl, -⟩ := List.cons_eq_cons.mp recordsEq
          exact different first.modes
        rw [readFrom_row noQuote] at accepted
        obtain ⟨rest, restRead, recordsEq⟩ := Option.map_eq_some_iff.mp accepted
        obtain ⟨-, rfl⟩ := List.cons_eq_cons.mp recordsEq
        rw [List.forall_mem_cons]
        refine ⟨⟨?_, ?_⟩, ih restRead others⟩
        · intro player member
          by_contra beyond
          obtain ⟨state, present⟩ :=
            Option.isSome_iff_exists.mp (Finmap.lookup_isSome.mpr member)
          have score := first.scores player state present
          rw [column_none first.sameLength (Nat.lt_of_not_le beyond)] at score
          cases score
        · intro mode member hasQuote
          exact noQuote
            ((mem_str (by decide) data.modes).mpr ⟨mode, member, hasQuote⟩)

theorem readFrom_rows {history : GameHistory}
    (noQuotes : ∀ data ∈ history, '"' ∉ data.modes.str.toList) :
    Csv.readFrom .plain [] [] (String.join (history.map csvRow)).toList =
      some (history.map rowRecord) := by
  induction history with
  | nil => rfl
  | cons data history ih =>
      rw [List.forall_mem_cons] at noQuotes
      have split : (String.join ((data :: history).map csvRow)).toList =
          (csvRow data).toList ++
            (String.join (history.map csvRow)).toList := by
        simp
      rw [split, readFrom_row noQuotes.1, ih noQuotes.2]
      rfl

theorem read_gameHistoryToCsv (history : GameHistory) :
    Csv.read (gameHistoryToCsv history) =
      (Csv.readFrom .plain [] []
        (String.join (history.map csvRow)).toList).map (header :: ·) := by
  rw [Csv.read, gameHistoryToCsv, String.toList_append, readFrom_header]

theorem recoverable_of_recovered {history : GameHistory}
    (recovered : Recovered history) :
    ∀ data ∈ history,
      (∀ player ∈ data.players, player ≤ absoluteMaxPlayersNum) ∧
        ∀ mode ∈ data.modes.modes, '"' ∉ mode.toList := by
  obtain ⟨someHeader, records, accepted, rowsRecovered⟩ := recovered
  rw [read_gameHistoryToCsv] at accepted
  obtain ⟨read, rowsRead, recordsEq⟩ := Option.map_eq_some_iff.mp accepted
  obtain ⟨rfl, rfl⟩ := List.cons_eq_cons.mp recordsEq
  exact rows_of_readFrom rowsRead rowsRecovered

theorem nonnegative_empty : Nonnegative ∅ := by
  intro player state present
  simp at present

theorem Nonnegative.insert {players : Players}
    (nonnegative : Nonnegative players) (player : Nat) {state : PlayerState}
    (newScore : 0 ≤ state.score) :
    Nonnegative (players.insert player state) := by
  intro other otherState present
  rcases Finmap.lookup_insert_cases present with ⟨-, rfl⟩ | ⟨-, old⟩
  · exact newScore
  · exact nonnegative other otherState old

/-- The rows handed over in a run of the state machine, with scores that are
not negative, are recovered from the text exactly when only players with a
score column take part and no mode contains a quote. -/
theorem recovered_iff {events : List GameStateEvent} {final : GameStateRun}
    (reached : Transition.run GameStateRun.step {} events = some final)
    {history : GameHistory} (handedOver : ∀ data ∈ history, data ∈ final.rows)
    (nonnegative : ∀ data ∈ history, Nonnegative data.players) :
    Recovered history ↔
      ∀ data ∈ history,
        (∀ player ∈ data.players, player ≤ absoluteMaxPlayersNum) ∧
          ∀ mode ∈ data.modes.modes, '"' ∉ mode.toList := by
  constructor
  · exact recoverable_of_recovered
  · intro recoverable
    have noQuotes : ∀ data ∈ history, '"' ∉ data.modes.str.toList := by
      intro data member hasQuote
      obtain ⟨mode, modeMember, inMode⟩ :=
        (mem_str (by decide) data.modes).mp hasQuote
      exact (recoverable data member).2 mode modeMember inMode
    refine ⟨header, history.map rowRecord, ?_, ?_⟩
    · rw [read_gameHistoryToCsv, readFrom_rows noQuotes]
      rfl
    · rw [List.forall₂_map_right_iff, List.forall₂_same]
      intro data member
      have rowValid : data.PlayersValid :=
        (GameStateRun.run_valid reached).rowsValid data (handedOver data member)
      exact rowRecovered
        (fun player present => ⟨(rowValid player present).1,
          (recoverable data member).1 player present⟩)
        (nonnegative data member)

/-- A game of one player that goes into the given mode. -/
def modeGame (mode : String) : List GameStateEvent :=
  [.operation {} (.setGameStarted .startButton),
    .operation {} (.addMode mode), .operation {} .commit]

theorem recovered_iff_modeGame :
    ∃ final,
      Transition.run GameStateRun.step {} (modeGame "MB:Multiball") =
          some final ∧
        final.rows.length = 2 ∧ Recovered final.rows := by
  have reached : Transition.run GameStateRun.step {}
      (modeGame "MB:Multiball") = some _ := rfl
  have onlyOne : ∀ player ∈ Finmap.insert 1 { player := 1 } (∅ : Players),
      player ≤ absoluteMaxPlayersNum := by
    intro player present
    rcases Finmap.mem_insert.mp present with rfl | impossible
    · decide
    · exact absurd impossible Finmap.notMem_empty
  refine ⟨_, reached, rfl, (recovered_iff reached ?_ ?_).mpr ?_⟩
  · exact fun _ member => member
  · refine List.forall_mem_cons.mpr ⟨?_, List.forall_mem_singleton.mpr ?_⟩
    · exact nonnegative_empty.insert 1 (Int.le_refl 0)
    · exact nonnegative_empty.insert 1 (Int.le_refl 0)
  · refine List.forall_mem_cons.mpr ⟨?_, List.forall_mem_singleton.mpr ?_⟩
    · exact ⟨onlyOne, by decide⟩
    · exact ⟨onlyOne, by decide⟩

/-- The score of a seventh player is lost, and so are modes with a quote. -/
theorem not_recovered_seventh_player :
    (∃ final, Transition.run GameStateRun.step {}
        [.operation {} (.setGameStarted .startButton),
          .operation {} (.setScore 7 100 0), .operation {} .commit] =
          some final ∧
      (∀ data ∈ final.rows, Nonnegative data.players) ∧
        ¬ Recovered final.rows) ∧
    ∃ final,
      Transition.run GameStateRun.step {} (modeGame "MB:\"Jackpot\"") =
          some final ∧
      (∀ data ∈ final.rows, Nonnegative data.players) ∧
        ¬ Recovered final.rows := by
  constructor
  · refine ⟨_, rfl, ?_, fun recovered => ?_⟩
    · refine List.forall_mem_cons.mpr ⟨?_, List.forall_mem_singleton.mpr ?_⟩
      · exact nonnegative_empty.insert 1 (Int.le_refl 0)
      · exact ((nonnegative_empty.insert 1 (Int.le_refl 0)).insert 7
          (Int.le_refl 0)).insert 7 (by decide)
    · have second := (List.forall_mem_cons.mp
        (recoverable_of_recovered recovered)).2
      have players := (List.forall_mem_singleton.mp second).1
      exact absurd (players 7 (Finmap.mem_insert.mpr (Or.inl rfl))) (by decide)
  · refine ⟨_, rfl, ?_, fun recovered => ?_⟩
    · refine List.forall_mem_cons.mpr ⟨?_, List.forall_mem_singleton.mpr ?_⟩
      · exact nonnegative_empty.insert 1 (Int.le_refl 0)
      · exact nonnegative_empty.insert 1 (Int.le_refl 0)
    · have second := (List.forall_mem_cons.mp
        (recoverable_of_recovered recovered)).2
      have modes := (List.forall_mem_singleton.mp second).2
      exact modes "MB:\"Jackpot\"" List.mem_cons_self (by decide)

end GameHistoryCsv

end ScorbitSdk
