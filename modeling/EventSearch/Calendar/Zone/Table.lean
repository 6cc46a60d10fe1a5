/-
# `EventSearch.Calendar.Zone.Table` — the named zones

Offset changes of the named zones, from the time zone database.  Changes that follow a yearly rule
are written as the rule; every other change is written out.  Rules run to the end of 2099, and the
last offset holds from then on.

Nothing is stated here.
-/
import EventSearch.Calendar.Zone

namespace EventSearch.Calendar

/-! ## Yearly rules -/

/-- A Sunday of a month. -/
inductive Sunday where
  | nth (k : Nat)
  | last

/-- A change that recurs every year: `second` seconds after UTC midnight of a Sunday the offset
becomes `offset`. -/
structure YearlyChange where
  month : Nat
  sunday : Sunday
  second : Int
  offset : Int

/-- The day number of a Sunday of a month. -/
def Sunday.dayNumber (year : Int) (month : Nat) : Sunday → Int
  | .nth k =>
    let first := Date.toDays ⟨year, month, 1⟩
    first + (7 - Date.weekday first) % 7 + 7 * (k - 1 : Nat)
  | .last =>
    let last := Date.toDays ⟨year, month, monthLength year month⟩
    last - Date.weekday last

/-- The change of one year. -/
def YearlyChange.inYear (c : YearlyChange) (year : Int) : Int × Int :=
  (c.sunday.dayNumber year c.month * 86400 + c.second, c.offset)

/-- The changes of all years from `first` to 2099, for rules in the order of the year. -/
def yearlyChanges (first : Nat) (rules : List YearlyChange) : List (Int × Int) :=
  (List.range' first (2100 - first)).flatMap fun (year : Nat) => rules.map (·.inYear (year : Int))

/-! ## Changes by zone -/

/-- Changes written one after the other: each is the seconds since the one before it, the first
since `start`, and the seconds that its offset is ahead of `base`. -/
def changesFrom (base start : Int) : List (Nat × Nat) → List (Int × Int)
  | [] => []
  | (gap, ahead) :: rest =>
    (start + gap, base + ahead) :: changesFrom base (start + gap) rest

/-- Changes of Europe/Paris before 1996. -/
def parisChanges : List (Int × Int) := changesFrom 0 (-1855958961) [
  (0, 0), (166144161, 3600), (9417600, 0), (15033600, 3600), (17020800, 0), (13219200, 3600),
  (18230400, 0), (12614400, 3600), (18835200, 0), (11404800, 3600), (21772800, 0), (12268800, 3600),
  (19440000, 0), (13046400, 3600), (16934400, 0), (19958400, 3600), (11491200, 0), (15120000, 3600),
  (16329600, 0), (15724800, 3600), (15724800, 0), (16934400, 3600), (14515200, 0), (16329600, 3600),
  (15120000, 0), (16934400, 3600), (15120000, 0), (16934400, 3600), (14515200, 0), (16329600, 3600),
  (15120000, 0), (16934400, 3600), (14515200, 0), (15724800, 3600), (15724800, 0), (15120000, 3600),
  (16934400, 0), (15724800, 3600), (15724800, 0), (15120000, 3600), (16329600, 0), (16934400, 3600),
  (14515200, 0), (15724800, 3600), (15724800, 0), (15120000, 3600), (16329600, 0), (16934400, 3600),
  (18748800, 0), (8478000, 3600), (9576000, 7200), (75178800, 3600), (12700800, 7200),
  (16329600, 3600), (15724800, 7200), (16236000, 3600), (15213600, 7200), (14428800, 3600),
  (963442800, 7200), (15721200, 3600), (16336800, 7200), (15120000, 3600), (16329600, 7200),
  (15724800, 3600), (15724800, 7200), (15724800, 3600), (16329600, 7200), (15120000, 3600),
  (15724800, 7200), (15724800, 3600), (15724800, 7200), (15724800, 3600), (15724800, 7200),
  (15724800, 3600), (15724800, 7200), (16329600, 3600), (15724800, 7200), (15724800, 3600),
  (15724800, 7200), (15724800, 3600), (15724800, 7200), (15724800, 3600), (15724800, 7200),
  (15724800, 3600), (15724800, 7200), (15724800, 3600), (15724800, 7200), (16329600, 3600),
  (15724800, 7200), (15724800, 3600), (15724800, 7200), (15724800, 3600), (15724800, 7200),
  (15724800, 3600), (15724800, 7200), (15724800, 3600), (15724800, 7200), (15724800, 3600)]

/-- Changes of Europe/London before 1996. -/
def londonChanges : List (Int × Int) := changesFrom 0 (-3852662325) [
  (0, 0), (2160698325, 3600), (11491200, 0), (16329600, 3600), (13996800, 0), (16243200, 3600),
  (16416000, 0), (15638400, 3600), (15811200, 0), (15638400, 3600), (18230400, 0), (13824000, 3600),
  (15811200, 0), (15033600, 3600), (16934400, 0), (16934400, 3600), (12700800, 0), (18144000, 3600),
  (13910400, 0), (18144000, 3600), (14515200, 0), (16934400, 3600), (14515200, 0), (16329600, 3600),
  (15120000, 0), (17539200, 3600), (14515200, 0), (16934400, 3600), (14515200, 0), (16329600, 3600),
  (15120000, 0), (16934400, 3600), (14515200, 0), (16934400, 3600), (14515200, 0), (16329600, 3600),
  (15724800, 0), (16934400, 3600), (14515200, 0), (16329600, 3600), (15120000, 0), (16934400, 3600),
  (14515200, 0), (16934400, 3600), (14515200, 0), (16329600, 3600), (15120000, 0), (16934400, 3600),
  (18748800, 0), (8467200, 3600), (37494000, 7200), (8467200, 3600), (20563200, 7200),
  (10886400, 3600), (20563200, 7200), (11491200, 3600), (19958400, 7200), (14515200, 3600),
  (17020800, 7200), (8985600, 3600), (7261200, 0), (16329600, 3600), (15120000, 0),
  (13910400, 3600), (2415600, 7200), (10281600, 3600), (7261200, 0), (11491200, 3600),
  (19958400, 0), (13305600, 3600), (18144000, 0), (14515200, 3600), (16329600, 0), (15120000, 3600),
  (16329600, 0), (15724800, 3600), (16329600, 0), (15120000, 3600), (14515200, 0), (16329600, 3600),
  (15120000, 0), (16934400, 3600), (14515200, 0), (17539200, 3600), (14515200, 0), (16329600, 3600),
  (15120000, 0), (16934400, 3600), (14515200, 0), (16934400, 3600), (14515200, 0), (16329600, 3600),
  (15120000, 0), (15120000, 3600), (18748800, 0), (12700800, 3600), (18748800, 0), (13305600, 3600),
  (18144000, 0), (12700800, 3600), (18748800, 0), (12700800, 3600), (18748800, 0), (12700800, 3600),
  (18748800, 0), (12700800, 3600), (19353600, 0), (9676800, 3600), (116726400, 0), (12096000, 3600),
  (19353600, 0), (12096000, 3600), (19353600, 0), (12096000, 3600), (19353600, 0), (12096000, 3600),
  (19353600, 0), (12700800, 3600), (18748800, 0), (12700800, 3600), (18748800, 0), (12700800, 3600),
  (19353600, 0), (12096000, 3600), (19353600, 0), (12096000, 3600), (19353600, 0), (13302000, 3600),
  (18144000, 0), (13305600, 3600), (18144000, 0), (13305600, 3600), (18144000, 0), (13305600, 3600),
  (18748800, 0), (13305600, 3600), (18144000, 0), (13305600, 3600), (18144000, 0), (13305600, 3600),
  (18144000, 0), (13305600, 3600), (18144000, 0), (13305600, 3600), (18748800, 0), (12700800, 3600),
  (18748800, 0), (13305600, 3600), (18144000, 0), (13305600, 3600), (18144000, 0), (13305600, 3600),
  (18144000, 0), (13305600, 3600), (18144000, 0), (13305600, 3600), (18144000, 0)]

/-- Changes of America/New_York before 2007. -/
def newYorkChanges : List (Int × Int) := changesFrom (-18000) (-2717650800) [
  (0, 0), (1084370400, 3600), (18140400, 0), (13309200, 3600), (18140400, 0), (13309200, 3600),
  (18745200, 0), (15123600, 3600), (13302000, 0), (18752400, 3600), (12697200, 0), (18752400, 3600),
  (13302000, 0), (18147600, 3600), (13302000, 0), (18147600, 3600), (13302000, 0), (18147600, 3600),
  (13302000, 0), (18147600, 3600), (13302000, 0), (18752400, 3600), (13302000, 0), (18147600, 3600),
  (13302000, 0), (18147600, 3600), (13302000, 0), (18147600, 3600), (13302000, 0), (18147600, 3600),
  (13302000, 0), (18752400, 3600), (12697200, 0), (18752400, 3600), (13302000, 0), (18147600, 3600),
  (13302000, 0), (18147600, 3600), (13302000, 0), (18147600, 3600), (13302000, 0), (18147600, 3600),
  (13302000, 0), (18752400, 3600), (12697200, 0), (18752400, 3600), (13302000, 0), (18147600, 3600),
  (13302000, 0), (11581200, 3600), (114822000, 0), (18147600, 3600), (13302000, 0),
  (18147600, 3600), (13302000, 0), (18147600, 3600), (13302000, 0), (18147600, 3600), (13302000, 0),
  (18752400, 3600), (12697200, 0), (18752400, 3600), (13302000, 0), (18147600, 3600), (13302000, 0),
  (18147600, 3600), (13302000, 0), (18147600, 3600), (13302000, 0), (18147600, 3600), (16326000, 0),
  (15728400, 3600), (15721200, 0), (15728400, 3600), (15721200, 0), (15728400, 3600), (15721200, 0),
  (15728400, 3600), (15721200, 0), (15728400, 3600), (16326000, 0), (15728400, 3600), (15721200, 0),
  (15728400, 3600), (15721200, 0), (15728400, 3600), (15721200, 0), (15728400, 3600), (15721200, 0),
  (15728400, 3600), (16326000, 0), (15123600, 3600), (16326000, 0), (15728400, 3600), (15721200, 0),
  (15728400, 3600), (15721200, 0), (15728400, 3600), (15721200, 0), (15728400, 3600), (15721200, 0),
  (15728400, 3600), (16326000, 0), (15728400, 3600), (15721200, 0), (15728400, 3600), (15721200, 0),
  (6051600, 3600), (25398000, 0), (10285200, 3600), (21164400, 0), (15728400, 3600), (16326000, 0),
  (15123600, 3600), (16326000, 0), (15728400, 3600), (15721200, 0), (15728400, 3600), (15721200, 0),
  (15728400, 3600), (15721200, 0), (15728400, 3600), (15721200, 0), (15728400, 3600), (16326000, 0),
  (15123600, 3600), (16326000, 0), (15728400, 3600), (15721200, 0), (15728400, 3600), (15721200, 0),
  (15728400, 3600), (15721200, 0), (13914000, 3600), (17535600, 0), (13914000, 3600), (18140400, 0),
  (13309200, 3600), (18140400, 0), (13309200, 3600), (18140400, 0), (13914000, 3600), (17535600, 0),
  (13914000, 3600), (17535600, 0), (13914000, 3600), (18140400, 0), (13309200, 3600), (18140400, 0),
  (13309200, 3600), (18140400, 0), (13914000, 3600), (17535600, 0), (13914000, 3600), (17535600, 0),
  (13914000, 3600), (17535600, 0), (13914000, 3600), (18140400, 0), (13309200, 3600), (18140400, 0),
  (13309200, 3600), (18140400, 0), (13914000, 3600), (17535600, 0), (13914000, 3600), (17535600, 0),
  (13914000, 3600), (18140400, 0), (13309200, 3600), (18140400, 0), (13309200, 3600), (18140400, 0)]

/-- Changes of Australia/Lord_Howe before 2008. -/
def lordHoweChanges : List (Int × Int) := changesFrom 36000 (-2364114980) [
  (0, 0), (2716331780, 1800), (20568600, 5400), (11487600, 1800), (20566800, 5400),
  (10882800, 1800), (20566800, 5400), (10882800, 1800), (20566800, 5400), (10882800, 1800),
  (20566800, 3600), (12094200, 1800), (18750600, 3600), (12699000, 1800), (19355400, 3600),
  (12699000, 1800), (19355400, 3600), (12094200, 1800), (19355400, 3600), (10884600, 1800),
  (20565000, 3600), (10884600, 1800), (20565000, 3600), (10884600, 1800), (20565000, 3600),
  (11489400, 1800), (20565000, 3600), (10884600, 1800), (20565000, 3600), (10884600, 1800),
  (20565000, 3600), (13303800, 1800), (18145800, 3600), (13303800, 1800), (18145800, 3600),
  (13303800, 1800), (18145800, 3600), (13303800, 1800), (18750600, 3600), (12699000, 1800),
  (13307400, 3600), (18142200, 1800), (18750600, 3600), (13303800, 1800), (18145800, 3600),
  (13303800, 1800), (18145800, 3600), (13303800, 1800), (18750600, 3600), (12699000, 1800),
  (18750600, 3600), (13303800, 1800), (18145800, 3600), (12699000, 1800), (18750600, 3600)]

/-- Changes of America/Sao_Paulo. -/
def saoPauloChanges : List (Int × Int) := changesFrom (-10800) (-1767214412) [
  (0, 0), (560256812, 3600), (15595200, 0), (15987600, 3600), (15548400, 0), (526006800, 3600),
  (11750400, 0), (19785600, 3600), (10450800, 0), (21085200, 3600), (10537200, 0), (21085200, 3600),
  (7772400, 0), (335926800, 3600), (11228400, 0), (29034000, 3600), (5094000, 0), (21171600, 3600),
  (7772400, 0), (21171600, 3600), (10364400, 0), (21171600, 3600), (10450800, 0), (557715600, 3600),
  (11487600, 0), (19357200, 3600), (9673200, 0), (21862800, 3600), (9068400, 0), (21776400, 3600),
  (9068400, 0), (22381200, 3600), (10278000, 0), (21776400, 3600), (10278000, 0), (21171600, 3600),
  (9673200, 0), (22381200, 3600), (8463600, 0), (22381200, 3600), (10882800, 0), (20566800, 3600),
  (10882800, 0), (20566800, 3600), (10278000, 0), (20566800, 3600), (11487600, 0), (20048400, 3600),
  (12610800, 0), (19357200, 3600), (11487600, 0), (19357200, 3600), (12697200, 0), (19357200, 3600),
  (11487600, 0), (20566800, 3600), (10882800, 0), (22381200, 3600), (9068400, 0), (21171600, 3600),
  (10278000, 0), (22554000, 3600), (9500400, 0), (20566800, 3600), (10882800, 0), (22381200, 3600),
  (9673200, 0), (19962000, 3600), (10882800, 0), (21171600, 3600), (10278000, 0), (21171600, 3600),
  (10882800, 0), (20566800, 3600), (10882800, 0), (20566800, 3600), (11487600, 0), (20566800, 3600),
  (10278000, 0), (21171600, 3600), (10278000, 0), (21171600, 3600), (10882800, 0), (20566800, 3600),
  (10882800, 0), (20566800, 3600), (10882800, 0), (20566800, 3600), (10882800, 0), (22381200, 3600),
  (9068400, 0)]

/-- Changes of Pacific/Apia. -/
def apiaChanges : List (Int × Int) := [
  (-2445424384, -41216), (-1861878784, -41400), (-631110600, -39600), (1285498800, -36000),
  (1301752800, -39600), (1316872800, -36000), (1325239200, 50400), (1333202400, 46800),
  (1348927200, 50400), (1365256800, 46800), (1380376800, 50400), (1396706400, 46800),
  (1411826400, 50400), (1428156000, 46800), (1443276000, 50400), (1459605600, 46800),
  (1474725600, 50400), (1491055200, 46800), (1506175200, 50400), (1522504800, 46800),
  (1538229600, 50400), (1554559200, 46800), (1569679200, 50400), (1586008800, 46800),
  (1601128800, 50400), (1617458400, 46800)]

/-- Changes of Asia/Kolkata. -/
def kolkataChanges : List (Int × Int) := [
  (-3645237208, 21200), (-3155694800, 19270), (-2019705670, 19800), (-891581400, 23400),
  (-872058600, 19800), (-862637400, 23400), (-764145000, 19800)]

/-- Changes of Asia/Kathmandu. -/
def kathmanduChanges : List (Int × Int) := [
  (-1577943676, 19800), (504901800, 20700)]

/-- Changes of Asia/Tokyo. -/
def tokyoChanges : List (Int × Int) := [
  (-2587712400, 32400), (-683802000, 36000), (-672310800, 32400), (-654771600, 36000),
  (-640861200, 32400), (-620298000, 36000), (-609411600, 32400), (-588848400, 36000),
  (-577962000, 32400)]

/-! ## The zones -/

/-- The zones that a name stands for. -/
def zoneTables : List ZoneTable := [
  ⟨"UTC", 0, []⟩,
  ⟨"Etc/UTC", 0, []⟩,
  ⟨"GMT", 0, []⟩,
  ⟨"GMT0", 0, []⟩,
  ⟨"Zulu", 0, []⟩,
  ⟨"Etc/GMT+5", -18000, []⟩,
  ⟨"EST", -18000, []⟩,
  ⟨"Etc/GMT-14", 50400, []⟩,
  ⟨"Europe/Paris", 561, parisChanges ++
    yearlyChanges 1996 [⟨3, .last, 3600, 7200⟩, ⟨10, .last, 3600, 3600⟩]⟩,
  ⟨"Europe/London", -75, londonChanges ++
    yearlyChanges 1996 [⟨3, .last, 3600, 3600⟩, ⟨10, .last, 3600, 0⟩]⟩,
  ⟨"America/New_York", -17762, newYorkChanges ++
    yearlyChanges 2007 [⟨3, .nth 2, 25200, -14400⟩, ⟨11, .nth 1, 21600, -18000⟩]⟩,
  ⟨"US/Eastern", -17762, newYorkChanges ++
    yearlyChanges 2007 [⟨3, .nth 2, 25200, -14400⟩, ⟨11, .nth 1, 21600, -18000⟩]⟩,
  ⟨"Australia/Lord_Howe", 38180, lordHoweChanges ++
    yearlyChanges 2008 [⟨4, .nth 1, -32400, 37800⟩, ⟨10, .nth 1, -30600, 39600⟩]⟩,
  ⟨"America/Sao_Paulo", -11188, saoPauloChanges⟩,
  ⟨"Pacific/Apia", 45184, apiaChanges⟩,
  ⟨"Asia/Kolkata", 21208, kolkataChanges⟩,
  ⟨"Asia/Calcutta", 21208, kolkataChanges⟩,
  ⟨"Asia/Kathmandu", 20476, kathmanduChanges⟩,
  ⟨"Asia/Tokyo", 33539, tokyoChanges⟩]

/-- The zone of a name, which must be spelled exactly. -/
def ZoneTable.ofName? (name : String) : Option ZoneTable :=
  zoneTables.find? (·.name = name)

end EventSearch.Calendar
