import Autoresponder.Time.Zone

/-!
# A table of zones

Some zones with their changes of offset in the years 2010 to 2037, for the command line, which has no
other source of them. Nothing else goes by this table.
-/

namespace Autoresponder.Zone

/-- The changes of Sao Paulo. -/
def saoPauloChanges : List (Int × Int) :=
  [(1266717600, -10800), (1287284400, -7200), (1298167200, -10800), (1318734000, -7200),
   (1330221600, -10800), (1350788400, -7200), (1361066400, -10800), (1382238000, -7200),
   (1392516000, -10800), (1413687600, -7200), (1424570400, -10800), (1445137200, -7200),
   (1456020000, -10800), (1476586800, -7200), (1487469600, -10800), (1508036400, -7200),
   (1518919200, -10800), (1541300400, -7200), (1550368800, -10800)]

/-- The changes of Lisbon. -/
def lisbonChanges : List (Int × Int) :=
  [(1269738000, 3600), (1288486800, 0), (1301187600, 3600), (1319936400, 0),
   (1332637200, 3600), (1351386000, 0), (1364691600, 3600), (1382835600, 0),
   (1396141200, 3600), (1414285200, 0), (1427590800, 3600), (1445734800, 0),
   (1459040400, 3600), (1477789200, 0), (1490490000, 3600), (1509238800, 0),
   (1521939600, 3600), (1540688400, 0), (1553994000, 3600), (1572138000, 0),
   (1585443600, 3600), (1603587600, 0), (1616893200, 3600), (1635642000, 0),
   (1648342800, 3600), (1667091600, 0), (1679792400, 3600), (1698541200, 0),
   (1711846800, 3600), (1729990800, 0), (1743296400, 3600), (1761440400, 0),
   (1774746000, 3600), (1792890000, 0), (1806195600, 3600), (1824944400, 0),
   (1837645200, 3600), (1856394000, 0), (1869094800, 3600), (1887843600, 0),
   (1901149200, 3600), (1919293200, 0), (1932598800, 3600), (1950742800, 0),
   (1964048400, 3600), (1982797200, 0), (1995498000, 3600), (2014246800, 0),
   (2026947600, 3600), (2045696400, 0), (2058397200, 3600), (2077146000, 0),
   (2090451600, 3600), (2108595600, 0), (2121901200, 3600), (2140045200, 0)]

/-- The changes of New York. -/
def newYorkChanges : List (Int × Int) :=
  [(1268550000, -14400), (1289109600, -18000), (1299999600, -14400), (1320559200, -18000),
   (1331449200, -14400), (1352008800, -18000), (1362898800, -14400), (1383458400, -18000),
   (1394348400, -14400), (1414908000, -18000), (1425798000, -14400), (1446357600, -18000),
   (1457852400, -14400), (1478412000, -18000), (1489302000, -14400), (1509861600, -18000),
   (1520751600, -14400), (1541311200, -18000), (1552201200, -14400), (1572760800, -18000),
   (1583650800, -14400), (1604210400, -18000), (1615705200, -14400), (1636264800, -18000),
   (1647154800, -14400), (1667714400, -18000), (1678604400, -14400), (1699164000, -18000),
   (1710054000, -14400), (1730613600, -18000), (1741503600, -14400), (1762063200, -18000),
   (1772953200, -14400), (1793512800, -18000), (1805007600, -14400), (1825567200, -18000),
   (1836457200, -14400), (1857016800, -18000), (1867906800, -14400), (1888466400, -18000),
   (1899356400, -14400), (1919916000, -18000), (1930806000, -14400), (1951365600, -18000),
   (1962860400, -14400), (1983420000, -18000), (1994310000, -14400), (2014869600, -18000),
   (2025759600, -14400), (2046319200, -18000), (2057209200, -14400), (2077768800, -18000),
   (2088658800, -14400), (2109218400, -18000), (2120108400, -14400), (2140668000, -18000)]

/-- The changes of Lord Howe. -/
def lordHoweChanges : List (Int × Int) :=
  [(1270306800, 37800), (1286033400, 39600), (1301756400, 37800), (1317483000, 39600),
   (1333206000, 37800), (1349537400, 39600), (1365260400, 37800), (1380987000, 39600),
   (1396710000, 37800), (1412436600, 39600), (1428159600, 37800), (1443886200, 39600),
   (1459609200, 37800), (1475335800, 39600), (1491058800, 37800), (1506785400, 39600),
   (1522508400, 37800), (1538839800, 39600), (1554562800, 37800), (1570289400, 39600),
   (1586012400, 37800), (1601739000, 39600), (1617462000, 37800), (1633188600, 39600),
   (1648911600, 37800), (1664638200, 39600), (1680361200, 37800), (1696087800, 39600),
   (1712415600, 37800), (1728142200, 39600), (1743865200, 37800), (1759591800, 39600),
   (1775314800, 37800), (1791041400, 39600), (1806764400, 37800), (1822491000, 39600),
   (1838214000, 37800), (1853940600, 39600), (1869663600, 37800), (1885995000, 39600),
   (1901718000, 37800), (1917444600, 39600), (1933167600, 37800), (1948894200, 39600),
   (1964617200, 37800), (1980343800, 39600), (1996066800, 37800), (2011793400, 39600),
   (2027516400, 37800), (2043243000, 39600), (2058966000, 37800), (2075297400, 39600),
   (2091020400, 37800), (2106747000, 39600), (2122470000, 37800), (2138196600, 39600)]

/-- The changes of Cairo. -/
def cairoChanges : List (Int × Int) :=
  [(1272578400, 10800), (1281474000, 7200), (1284069600, 10800), (1285880400, 7200),
   (1400191200, 10800), (1403816400, 7200), (1406844000, 10800), (1411678800, 7200),
   (1682632800, 10800), (1698354000, 7200), (1714082400, 10800), (1730408400, 7200),
   (1745532000, 10800), (1761858000, 7200), (1776981600, 10800), (1793307600, 7200),
   (1809036000, 10800), (1824757200, 7200), (1840485600, 10800), (1856206800, 7200),
   (1871935200, 10800), (1887656400, 7200), (1903384800, 10800), (1919710800, 7200),
   (1934834400, 10800), (1951160400, 7200), (1966888800, 10800), (1982610000, 7200),
   (1998338400, 10800), (2014059600, 7200), (2029788000, 10800), (2045509200, 7200),
   (2061237600, 10800), (2076958800, 7200), (2092687200, 10800), (2109013200, 7200),
   (2124136800, 10800), (2140462800, 7200)]

/-- The changes of Havana. -/
def havanaChanges : List (Int × Int) :=
  [(1268542800, -14400), (1288501200, -18000), (1300597200, -14400), (1321160400, -18000),
   (1333256400, -14400), (1352005200, -18000), (1362891600, -14400), (1383454800, -18000),
   (1394341200, -14400), (1414904400, -18000), (1425790800, -14400), (1446354000, -18000),
   (1457845200, -14400), (1478408400, -18000), (1489294800, -14400), (1509858000, -18000),
   (1520744400, -14400), (1541307600, -18000), (1552194000, -14400), (1572757200, -18000),
   (1583643600, -14400), (1604206800, -18000), (1615698000, -14400), (1636261200, -18000),
   (1647147600, -14400), (1667710800, -18000), (1678597200, -14400), (1699160400, -18000),
   (1710046800, -14400), (1730610000, -18000), (1741496400, -14400), (1762059600, -18000),
   (1772946000, -14400), (1793509200, -18000), (1805000400, -14400), (1825563600, -18000),
   (1836450000, -14400), (1857013200, -18000), (1867899600, -14400), (1888462800, -18000),
   (1899349200, -14400), (1919912400, -18000), (1930798800, -14400), (1951362000, -18000),
   (1962853200, -14400), (1983416400, -18000), (1994302800, -14400), (2014866000, -18000),
   (2025752400, -14400), (2046315600, -18000), (2057202000, -14400), (2077765200, -18000),
   (2088651600, -14400), (2109214800, -18000), (2120101200, -14400), (2140664400, -18000)]

/-- The changes of Beirut. -/
def beirutChanges : List (Int × Int) :=
  [(1269727200, 10800), (1288472400, 7200), (1301176800, 10800), (1319922000, 7200),
   (1332626400, 10800), (1351371600, 7200), (1364680800, 10800), (1382821200, 7200),
   (1396130400, 10800), (1414270800, 7200), (1427580000, 10800), (1445720400, 7200),
   (1459029600, 10800), (1477774800, 7200), (1490479200, 10800), (1509224400, 7200),
   (1521928800, 10800), (1540674000, 7200), (1553983200, 10800), (1572123600, 7200),
   (1585432800, 10800), (1603573200, 7200), (1616882400, 10800), (1635627600, 7200),
   (1648332000, 10800), (1667077200, 7200), (1679781600, 10800), (1698526800, 7200),
   (1711836000, 10800), (1729976400, 7200), (1743285600, 10800), (1761426000, 7200),
   (1774735200, 10800), (1792875600, 7200), (1806184800, 10800), (1824930000, 7200),
   (1837634400, 10800), (1856379600, 7200), (1869084000, 10800), (1887829200, 7200),
   (1901138400, 10800), (1919278800, 7200), (1932588000, 10800), (1950728400, 7200),
   (1964037600, 10800), (1982782800, 7200), (1995487200, 10800), (2014232400, 7200),
   (2026936800, 10800), (2045682000, 7200), (2058386400, 10800), (2077131600, 7200),
   (2090440800, 10800), (2108581200, 7200), (2121890400, 10800), (2140030800, 7200)]

/-- The changes of Santiago. -/
def santiagoChanges : List (Int × Int) :=
  [(1270350000, -14400), (1286683200, -10800), (1304823600, -14400), (1313899200, -10800),
   (1335668400, -14400), (1346558400, -10800), (1367118000, -14400), (1378612800, -10800),
   (1398567600, -14400), (1410062400, -10800), (1463281200, -14400), (1471147200, -10800),
   (1494730800, -14400), (1502596800, -10800), (1526180400, -14400), (1534046400, -10800),
   (1554606000, -14400), (1567915200, -10800), (1586055600, -14400), (1599364800, -10800),
   (1617505200, -14400), (1630814400, -10800), (1648954800, -14400), (1662868800, -10800),
   (1680404400, -14400), (1693713600, -10800), (1712458800, -14400), (1725768000, -10800),
   (1743908400, -14400), (1757217600, -10800), (1775358000, -14400), (1788667200, -10800),
   (1806807600, -14400), (1820116800, -10800), (1838257200, -14400), (1851566400, -10800),
   (1870311600, -14400), (1883016000, -10800), (1901761200, -14400), (1915070400, -10800),
   (1933210800, -14400), (1946520000, -10800), (1964660400, -14400), (1977969600, -10800),
   (1996110000, -14400), (2009419200, -10800), (2027559600, -14400), (2040868800, -10800),
   (2059614000, -14400), (2072318400, -10800), (2091063600, -14400), (2104372800, -10800),
   (2122513200, -14400), (2135822400, -10800)]

/-- The changes of St Johns. -/
def stJohnsChanges : List (Int × Int) :=
  [(1268537460, -9000), (1289097060, -12600), (1299987060, -9000), (1320553800, -12600),
   (1331443800, -9000), (1352003400, -12600), (1362893400, -9000), (1383453000, -12600),
   (1394343000, -9000), (1414902600, -12600), (1425792600, -9000), (1446352200, -12600),
   (1457847000, -9000), (1478406600, -12600), (1489296600, -9000), (1509856200, -12600),
   (1520746200, -9000), (1541305800, -12600), (1552195800, -9000), (1572755400, -12600),
   (1583645400, -9000), (1604205000, -12600), (1615699800, -9000), (1636259400, -12600),
   (1647149400, -9000), (1667709000, -12600), (1678599000, -9000), (1699158600, -12600),
   (1710048600, -9000), (1730608200, -12600), (1741498200, -9000), (1762057800, -12600),
   (1772947800, -9000), (1793507400, -12600), (1805002200, -9000), (1825561800, -12600),
   (1836451800, -9000), (1857011400, -12600), (1867901400, -9000), (1888461000, -12600),
   (1899351000, -9000), (1919910600, -12600), (1930800600, -9000), (1951360200, -12600),
   (1962855000, -9000), (1983414600, -12600), (1994304600, -9000), (2014864200, -12600),
   (2025754200, -9000), (2046313800, -12600), (2057203800, -9000), (2077763400, -12600),
   (2088653400, -9000), (2109213000, -12600), (2120103000, -9000), (2140662600, -12600)]

/-- The changes of Pacific. -/
def pacificChanges : List (Int × Int) :=
  [(1268560800, -25200), (1289120400, -28800), (1300010400, -25200), (1320570000, -28800),
   (1331460000, -25200), (1352019600, -28800), (1362909600, -25200), (1383469200, -28800),
   (1394359200, -25200), (1414918800, -28800), (1425808800, -25200), (1446368400, -28800),
   (1457863200, -25200), (1478422800, -28800), (1489312800, -25200), (1509872400, -28800),
   (1520762400, -25200), (1541322000, -28800), (1552212000, -25200), (1572771600, -28800),
   (1583661600, -25200), (1604221200, -28800), (1615716000, -25200), (1636275600, -28800),
   (1647165600, -25200), (1667725200, -28800), (1678615200, -25200), (1699174800, -28800),
   (1710064800, -25200), (1730624400, -28800), (1741514400, -25200), (1762074000, -28800),
   (1772964000, -25200), (1793523600, -28800), (1805018400, -25200), (1825578000, -28800),
   (1836468000, -25200), (1857027600, -28800), (1867917600, -25200), (1888477200, -28800),
   (1899367200, -25200), (1919926800, -28800), (1930816800, -25200), (1951376400, -28800),
   (1962871200, -25200), (1983430800, -28800), (1994320800, -25200), (2014880400, -28800),
   (2025770400, -25200), (2046330000, -28800), (2057220000, -25200), (2077779600, -28800),
   (2088669600, -25200), (2109229200, -28800), (2120119200, -25200), (2140678800, -28800)]

/-- Every zone that can be named. -/
def all : List Zone :=
  [⟨"UTC", 0, []⟩,
   ⟨"America/Sao_Paulo", -7200, saoPauloChanges⟩,
   ⟨"Europe/Lisbon", 0, lisbonChanges⟩,
   ⟨"America/New_York", -18000, newYorkChanges⟩,
   ⟨"Asia/Kolkata", 19800, []⟩,
   ⟨"Asia/Kathmandu", 20700, []⟩,
   ⟨"Australia/Lord_Howe", 39600, lordHoweChanges⟩,
   ⟨"Africa/Cairo", 7200, cairoChanges⟩,
   ⟨"America/Havana", -18000, havanaChanges⟩,
   ⟨"Asia/Beirut", 7200, beirutChanges⟩,
   ⟨"America/Santiago", -10800, santiagoChanges⟩,
   ⟨"Pacific/Kiritimati", 50400, []⟩,
   ⟨"Pacific/Honolulu", -36000, []⟩,
   ⟨"Asia/Tokyo", 32400, []⟩,
   ⟨"America/St_Johns", -12600, stJohnsChanges⟩,
   ⟨"GMT", 0, []⟩,
   ⟨"Etc/UTC", 0, []⟩,
   ⟨"Etc/GMT+5", -18000, []⟩,
   ⟨"Etc/GMT-5", 18000, []⟩,
   ⟨"US/Pacific", -28800, pacificChanges⟩,
   ⟨"EST", -18000, []⟩,
   ⟨"America/Buenos_Aires", -10800, []⟩,
   ⟨"Brazil/East", -7200, saoPauloChanges⟩,
   ⟨"Asia/Calcutta", 19800, []⟩]

/-- The zone of a name. -/
def named? : Zones := fun name => all.find? (·.name == name)

end Autoresponder.Zone
