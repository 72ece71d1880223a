import PortableSearch.Calendar.Zone

/-! Transition tables of the time zone database, as far as signed 32-bit seconds reach: after
2037 a place keeps the offset of its last standard time. A change counts at the wall time that it
has in the standard time of its day. -/
namespace PortableSearch.Calendar.ZoneTable

/-- Europe/Paris. -/
def europeParis : ZoneTable := ⟨561, 3600,
  [⟨-2147483648, 561, 561⟩, ⟨-1855958961, 0, 0⟩, ⟨-1689814800, 0, 3600⟩, ⟨-1680397200, 0, 0⟩,
    ⟨-1665363600, 0, 3600⟩, ⟨-1648342800, 0, 0⟩, ⟨-1635123600, 0, 3600⟩, ⟨-1616893200, 0, 0⟩,
    ⟨-1604278800, 0, 3600⟩, ⟨-1585443600, 0, 0⟩, ⟨-1574038800, 0, 3600⟩, ⟨-1552266000, 0, 0⟩,
    ⟨-1539997200, 0, 3600⟩, ⟨-1520557200, 0, 0⟩, ⟨-1507510800, 0, 3600⟩, ⟨-1490576400, 0, 0⟩,
    ⟨-1470618000, 0, 3600⟩, ⟨-1459126800, 0, 0⟩, ⟨-1444006800, 0, 3600⟩, ⟨-1427677200, 0, 0⟩,
    ⟨-1411952400, 0, 3600⟩, ⟨-1396227600, 0, 0⟩, ⟨-1379293200, 0, 3600⟩, ⟨-1364778000, 0, 0⟩,
    ⟨-1348448400, 0, 3600⟩, ⟨-1333328400, 0, 0⟩, ⟨-1316394000, 0, 3600⟩, ⟨-1301274000, 0, 0⟩,
    ⟨-1284339600, 0, 3600⟩, ⟨-1269824400, 0, 0⟩, ⟨-1253494800, 0, 3600⟩, ⟨-1238374800, 0, 0⟩,
    ⟨-1221440400, 0, 3600⟩, ⟨-1206925200, 0, 0⟩, ⟨-1191200400, 0, 3600⟩, ⟨-1175475600, 0, 0⟩,
    ⟨-1160355600, 0, 3600⟩, ⟨-1143421200, 0, 0⟩, ⟨-1127696400, 0, 3600⟩, ⟨-1111971600, 0, 0⟩,
    ⟨-1096851600, 0, 3600⟩, ⟨-1080522000, 0, 0⟩, ⟨-1063587600, 0, 3600⟩, ⟨-1049072400, 0, 0⟩,
    ⟨-1033347600, 0, 3600⟩, ⟨-1017622800, 0, 0⟩, ⟨-1002502800, 0, 3600⟩, ⟨-986173200, 0, 0⟩,
    ⟨-969238800, 0, 3600⟩, ⟨-950490000, 0, 0⟩, ⟨-942012000, 0, 3600⟩, ⟨-932436000, 3600, 7200⟩,
    ⟨-857257200, 3600, 3600⟩, ⟨-844556400, 3600, 7200⟩, ⟨-828226800, 3600, 3600⟩,
    ⟨-812502000, 3600, 7200⟩, ⟨-800071200, 3600, 7200⟩, ⟨-796266000, 0, 3600⟩,
    ⟨-781052400, 3600, 7200⟩, ⟨-766623600, 3600, 3600⟩, ⟨196819200, 3600, 7200⟩,
    ⟨212540400, 3600, 3600⟩, ⟨228877200, 3600, 7200⟩, ⟨243997200, 3600, 3600⟩,
    ⟨260326800, 3600, 7200⟩, ⟨276051600, 3600, 3600⟩, ⟨291776400, 3600, 7200⟩,
    ⟨307501200, 3600, 3600⟩, ⟨323830800, 3600, 7200⟩, ⟨338950800, 3600, 3600⟩,
    ⟨354675600, 3600, 7200⟩, ⟨370400400, 3600, 3600⟩, ⟨386125200, 3600, 7200⟩,
    ⟨401850000, 3600, 3600⟩, ⟨417574800, 3600, 7200⟩, ⟨433299600, 3600, 3600⟩,
    ⟨449024400, 3600, 7200⟩, ⟨465354000, 3600, 3600⟩, ⟨481078800, 3600, 7200⟩,
    ⟨496803600, 3600, 3600⟩, ⟨512528400, 3600, 7200⟩, ⟨528253200, 3600, 3600⟩,
    ⟨543978000, 3600, 7200⟩, ⟨559702800, 3600, 3600⟩, ⟨575427600, 3600, 7200⟩,
    ⟨591152400, 3600, 3600⟩, ⟨606877200, 3600, 7200⟩, ⟨622602000, 3600, 3600⟩,
    ⟨638326800, 3600, 7200⟩, ⟨654656400, 3600, 3600⟩, ⟨670381200, 3600, 7200⟩,
    ⟨686106000, 3600, 3600⟩, ⟨701830800, 3600, 7200⟩, ⟨717555600, 3600, 3600⟩,
    ⟨733280400, 3600, 7200⟩, ⟨749005200, 3600, 3600⟩, ⟨764730000, 3600, 7200⟩,
    ⟨780454800, 3600, 3600⟩, ⟨796179600, 3600, 7200⟩, ⟨811904400, 3600, 3600⟩,
    ⟨828234000, 3600, 7200⟩, ⟨846378000, 3600, 3600⟩, ⟨859683600, 3600, 7200⟩,
    ⟨877827600, 3600, 3600⟩, ⟨891133200, 3600, 7200⟩, ⟨909277200, 3600, 3600⟩,
    ⟨922582800, 3600, 7200⟩, ⟨941331600, 3600, 3600⟩, ⟨954032400, 3600, 7200⟩,
    ⟨972781200, 3600, 3600⟩, ⟨985482000, 3600, 7200⟩, ⟨1004230800, 3600, 3600⟩,
    ⟨1017536400, 3600, 7200⟩, ⟨1035680400, 3600, 3600⟩, ⟨1048986000, 3600, 7200⟩,
    ⟨1067130000, 3600, 3600⟩, ⟨1080435600, 3600, 7200⟩, ⟨1099184400, 3600, 3600⟩,
    ⟨1111885200, 3600, 7200⟩, ⟨1130634000, 3600, 3600⟩, ⟨1143334800, 3600, 7200⟩,
    ⟨1162083600, 3600, 3600⟩, ⟨1174784400, 3600, 7200⟩, ⟨1193533200, 3600, 3600⟩,
    ⟨1206838800, 3600, 7200⟩, ⟨1224982800, 3600, 3600⟩, ⟨1238288400, 3600, 7200⟩,
    ⟨1256432400, 3600, 3600⟩, ⟨1269738000, 3600, 7200⟩, ⟨1288486800, 3600, 3600⟩,
    ⟨1301187600, 3600, 7200⟩, ⟨1319936400, 3600, 3600⟩, ⟨1332637200, 3600, 7200⟩,
    ⟨1351386000, 3600, 3600⟩, ⟨1364691600, 3600, 7200⟩, ⟨1382835600, 3600, 3600⟩,
    ⟨1396141200, 3600, 7200⟩, ⟨1414285200, 3600, 3600⟩, ⟨1427590800, 3600, 7200⟩,
    ⟨1445734800, 3600, 3600⟩, ⟨1459040400, 3600, 7200⟩, ⟨1477789200, 3600, 3600⟩,
    ⟨1490490000, 3600, 7200⟩, ⟨1509238800, 3600, 3600⟩, ⟨1521939600, 3600, 7200⟩,
    ⟨1540688400, 3600, 3600⟩, ⟨1553994000, 3600, 7200⟩, ⟨1572138000, 3600, 3600⟩,
    ⟨1585443600, 3600, 7200⟩, ⟨1603587600, 3600, 3600⟩, ⟨1616893200, 3600, 7200⟩,
    ⟨1635642000, 3600, 3600⟩, ⟨1648342800, 3600, 7200⟩, ⟨1667091600, 3600, 3600⟩,
    ⟨1679792400, 3600, 7200⟩, ⟨1698541200, 3600, 3600⟩, ⟨1711846800, 3600, 7200⟩,
    ⟨1729990800, 3600, 3600⟩, ⟨1743296400, 3600, 7200⟩, ⟨1761440400, 3600, 3600⟩,
    ⟨1774746000, 3600, 7200⟩, ⟨1792890000, 3600, 3600⟩, ⟨1806195600, 3600, 7200⟩,
    ⟨1824944400, 3600, 3600⟩, ⟨1837645200, 3600, 7200⟩, ⟨1856394000, 3600, 3600⟩,
    ⟨1869094800, 3600, 7200⟩, ⟨1887843600, 3600, 3600⟩, ⟨1901149200, 3600, 7200⟩,
    ⟨1919293200, 3600, 3600⟩, ⟨1932598800, 3600, 7200⟩, ⟨1950742800, 3600, 3600⟩,
    ⟨1964048400, 3600, 7200⟩, ⟨1982797200, 3600, 3600⟩, ⟨1995498000, 3600, 7200⟩,
    ⟨2014246800, 3600, 3600⟩, ⟨2026947600, 3600, 7200⟩, ⟨2045696400, 3600, 3600⟩,
    ⟨2058397200, 3600, 7200⟩, ⟨2077146000, 3600, 3600⟩, ⟨2090451600, 3600, 7200⟩,
    ⟨2108595600, 3600, 3600⟩, ⟨2121901200, 3600, 7200⟩, ⟨2140045200, 3600, 3600⟩]⟩

/-- America/New_York. -/
def americaNewYork : ZoneTable := ⟨-17762, -18000,
  [⟨-2147483648, -18000, -18000⟩, ⟨-1633280400, -18000, -14400⟩, ⟨-1615140000, -18000, -18000⟩,
    ⟨-1601830800, -18000, -14400⟩, ⟨-1583690400, -18000, -18000⟩, ⟨-1570381200, -18000, -14400⟩,
    ⟨-1551636000, -18000, -18000⟩, ⟨-1536512400, -18000, -14400⟩, ⟨-1523210400, -18000, -18000⟩,
    ⟨-1504458000, -18000, -14400⟩, ⟨-1491760800, -18000, -18000⟩, ⟨-1473008400, -18000, -14400⟩,
    ⟨-1459706400, -18000, -18000⟩, ⟨-1441558800, -18000, -14400⟩, ⟨-1428256800, -18000, -18000⟩,
    ⟨-1410109200, -18000, -14400⟩, ⟨-1396807200, -18000, -18000⟩, ⟨-1378659600, -18000, -14400⟩,
    ⟨-1365357600, -18000, -18000⟩, ⟨-1347210000, -18000, -14400⟩, ⟨-1333908000, -18000, -18000⟩,
    ⟨-1315155600, -18000, -14400⟩, ⟨-1301853600, -18000, -18000⟩, ⟨-1283706000, -18000, -14400⟩,
    ⟨-1270404000, -18000, -18000⟩, ⟨-1252256400, -18000, -14400⟩, ⟨-1238954400, -18000, -18000⟩,
    ⟨-1220806800, -18000, -14400⟩, ⟨-1207504800, -18000, -18000⟩, ⟨-1189357200, -18000, -14400⟩,
    ⟨-1176055200, -18000, -18000⟩, ⟨-1157302800, -18000, -14400⟩, ⟨-1144605600, -18000, -18000⟩,
    ⟨-1125853200, -18000, -14400⟩, ⟨-1112551200, -18000, -18000⟩, ⟨-1094403600, -18000, -14400⟩,
    ⟨-1081101600, -18000, -18000⟩, ⟨-1062954000, -18000, -14400⟩, ⟨-1049652000, -18000, -18000⟩,
    ⟨-1031504400, -18000, -14400⟩, ⟨-1018202400, -18000, -18000⟩, ⟨-1000054800, -18000, -14400⟩,
    ⟨-986752800, -18000, -18000⟩, ⟨-968000400, -18000, -14400⟩, ⟨-955303200, -18000, -18000⟩,
    ⟨-936550800, -18000, -14400⟩, ⟨-923248800, -18000, -18000⟩, ⟨-905101200, -18000, -14400⟩,
    ⟨-891799200, -18000, -18000⟩, ⟨-880218000, -18000, -14400⟩, ⟨-769395600, -18000, -14400⟩,
    ⟨-765396000, -18000, -18000⟩, ⟨-747248400, -18000, -14400⟩, ⟨-733946400, -18000, -18000⟩,
    ⟨-715798800, -18000, -14400⟩, ⟨-702496800, -18000, -18000⟩, ⟨-684349200, -18000, -14400⟩,
    ⟨-671047200, -18000, -18000⟩, ⟨-652899600, -18000, -14400⟩, ⟨-639597600, -18000, -18000⟩,
    ⟨-620845200, -18000, -14400⟩, ⟨-608148000, -18000, -18000⟩, ⟨-589395600, -18000, -14400⟩,
    ⟨-576093600, -18000, -18000⟩, ⟨-557946000, -18000, -14400⟩, ⟨-544644000, -18000, -18000⟩,
    ⟨-526496400, -18000, -14400⟩, ⟨-513194400, -18000, -18000⟩, ⟨-495046800, -18000, -14400⟩,
    ⟨-481744800, -18000, -18000⟩, ⟨-463597200, -18000, -14400⟩, ⟨-447271200, -18000, -18000⟩,
    ⟨-431542800, -18000, -14400⟩, ⟨-415821600, -18000, -18000⟩, ⟨-400093200, -18000, -14400⟩,
    ⟨-384372000, -18000, -18000⟩, ⟨-368643600, -18000, -14400⟩, ⟨-352922400, -18000, -18000⟩,
    ⟨-337194000, -18000, -14400⟩, ⟨-321472800, -18000, -18000⟩, ⟨-305744400, -18000, -14400⟩,
    ⟨-289418400, -18000, -18000⟩, ⟨-273690000, -18000, -14400⟩, ⟨-257968800, -18000, -18000⟩,
    ⟨-242240400, -18000, -14400⟩, ⟨-226519200, -18000, -18000⟩, ⟨-210790800, -18000, -14400⟩,
    ⟨-195069600, -18000, -18000⟩, ⟨-179341200, -18000, -14400⟩, ⟨-163620000, -18000, -18000⟩,
    ⟨-147891600, -18000, -14400⟩, ⟨-131565600, -18000, -18000⟩, ⟨-116442000, -18000, -14400⟩,
    ⟨-100116000, -18000, -18000⟩, ⟨-84387600, -18000, -14400⟩, ⟨-68666400, -18000, -18000⟩,
    ⟨-52938000, -18000, -14400⟩, ⟨-37216800, -18000, -18000⟩, ⟨-21488400, -18000, -14400⟩,
    ⟨-5767200, -18000, -18000⟩, ⟨9961200, -18000, -14400⟩, ⟨25682400, -18000, -18000⟩,
    ⟨41410800, -18000, -14400⟩, ⟨57736800, -18000, -18000⟩, ⟨73465200, -18000, -14400⟩,
    ⟨89186400, -18000, -18000⟩, ⟨104914800, -18000, -14400⟩, ⟨120636000, -18000, -18000⟩,
    ⟨126687600, -18000, -14400⟩, ⟨152085600, -18000, -18000⟩, ⟨162370800, -18000, -14400⟩,
    ⟨183535200, -18000, -18000⟩, ⟨199263600, -18000, -14400⟩, ⟨215589600, -18000, -18000⟩,
    ⟨230713200, -18000, -14400⟩, ⟨247039200, -18000, -18000⟩, ⟨262767600, -18000, -14400⟩,
    ⟨278488800, -18000, -18000⟩, ⟨294217200, -18000, -14400⟩, ⟨309938400, -18000, -18000⟩,
    ⟨325666800, -18000, -14400⟩, ⟨341388000, -18000, -18000⟩, ⟨357116400, -18000, -14400⟩,
    ⟨372837600, -18000, -18000⟩, ⟨388566000, -18000, -14400⟩, ⟨404892000, -18000, -18000⟩,
    ⟨420015600, -18000, -14400⟩, ⟨436341600, -18000, -18000⟩, ⟨452070000, -18000, -14400⟩,
    ⟨467791200, -18000, -18000⟩, ⟨483519600, -18000, -14400⟩, ⟨499240800, -18000, -18000⟩,
    ⟨514969200, -18000, -14400⟩, ⟨530690400, -18000, -18000⟩, ⟨544604400, -18000, -14400⟩,
    ⟨562140000, -18000, -18000⟩, ⟨576054000, -18000, -14400⟩, ⟨594194400, -18000, -18000⟩,
    ⟨607503600, -18000, -14400⟩, ⟨625644000, -18000, -18000⟩, ⟨638953200, -18000, -14400⟩,
    ⟨657093600, -18000, -18000⟩, ⟨671007600, -18000, -14400⟩, ⟨688543200, -18000, -18000⟩,
    ⟨702457200, -18000, -14400⟩, ⟨719992800, -18000, -18000⟩, ⟨733906800, -18000, -14400⟩,
    ⟨752047200, -18000, -18000⟩, ⟨765356400, -18000, -14400⟩, ⟨783496800, -18000, -18000⟩,
    ⟨796806000, -18000, -14400⟩, ⟨814946400, -18000, -18000⟩, ⟨828860400, -18000, -14400⟩,
    ⟨846396000, -18000, -18000⟩, ⟨860310000, -18000, -14400⟩, ⟨877845600, -18000, -18000⟩,
    ⟨891759600, -18000, -14400⟩, ⟨909295200, -18000, -18000⟩, ⟨923209200, -18000, -14400⟩,
    ⟨941349600, -18000, -18000⟩, ⟨954658800, -18000, -14400⟩, ⟨972799200, -18000, -18000⟩,
    ⟨986108400, -18000, -14400⟩, ⟨1004248800, -18000, -18000⟩, ⟨1018162800, -18000, -14400⟩,
    ⟨1035698400, -18000, -18000⟩, ⟨1049612400, -18000, -14400⟩, ⟨1067148000, -18000, -18000⟩,
    ⟨1081062000, -18000, -14400⟩, ⟨1099202400, -18000, -18000⟩, ⟨1112511600, -18000, -14400⟩,
    ⟨1130652000, -18000, -18000⟩, ⟨1143961200, -18000, -14400⟩, ⟨1162101600, -18000, -18000⟩,
    ⟨1173596400, -18000, -14400⟩, ⟨1194156000, -18000, -18000⟩, ⟨1205046000, -18000, -14400⟩,
    ⟨1225605600, -18000, -18000⟩, ⟨1236495600, -18000, -14400⟩, ⟨1257055200, -18000, -18000⟩,
    ⟨1268550000, -18000, -14400⟩, ⟨1289109600, -18000, -18000⟩, ⟨1299999600, -18000, -14400⟩,
    ⟨1320559200, -18000, -18000⟩, ⟨1331449200, -18000, -14400⟩, ⟨1352008800, -18000, -18000⟩,
    ⟨1362898800, -18000, -14400⟩, ⟨1383458400, -18000, -18000⟩, ⟨1394348400, -18000, -14400⟩,
    ⟨1414908000, -18000, -18000⟩, ⟨1425798000, -18000, -14400⟩, ⟨1446357600, -18000, -18000⟩,
    ⟨1457852400, -18000, -14400⟩, ⟨1478412000, -18000, -18000⟩, ⟨1489302000, -18000, -14400⟩,
    ⟨1509861600, -18000, -18000⟩, ⟨1520751600, -18000, -14400⟩, ⟨1541311200, -18000, -18000⟩,
    ⟨1552201200, -18000, -14400⟩, ⟨1572760800, -18000, -18000⟩, ⟨1583650800, -18000, -14400⟩,
    ⟨1604210400, -18000, -18000⟩, ⟨1615705200, -18000, -14400⟩, ⟨1636264800, -18000, -18000⟩,
    ⟨1647154800, -18000, -14400⟩, ⟨1667714400, -18000, -18000⟩, ⟨1678604400, -18000, -14400⟩,
    ⟨1699164000, -18000, -18000⟩, ⟨1710054000, -18000, -14400⟩, ⟨1730613600, -18000, -18000⟩,
    ⟨1741503600, -18000, -14400⟩, ⟨1762063200, -18000, -18000⟩, ⟨1772953200, -18000, -14400⟩,
    ⟨1793512800, -18000, -18000⟩, ⟨1805007600, -18000, -14400⟩, ⟨1825567200, -18000, -18000⟩,
    ⟨1836457200, -18000, -14400⟩, ⟨1857016800, -18000, -18000⟩, ⟨1867906800, -18000, -14400⟩,
    ⟨1888466400, -18000, -18000⟩, ⟨1899356400, -18000, -14400⟩, ⟨1919916000, -18000, -18000⟩,
    ⟨1930806000, -18000, -14400⟩, ⟨1951365600, -18000, -18000⟩, ⟨1962860400, -18000, -14400⟩,
    ⟨1983420000, -18000, -18000⟩, ⟨1994310000, -18000, -14400⟩, ⟨2014869600, -18000, -18000⟩,
    ⟨2025759600, -18000, -14400⟩, ⟨2046319200, -18000, -18000⟩, ⟨2057209200, -18000, -14400⟩,
    ⟨2077768800, -18000, -18000⟩, ⟨2088658800, -18000, -14400⟩, ⟨2109218400, -18000, -18000⟩,
    ⟨2120108400, -18000, -14400⟩, ⟨2140668000, -18000, -18000⟩]⟩

/-- America/Los_Angeles. -/
def americaLosAngeles : ZoneTable := ⟨-28378, -28800,
  [⟨-2147483648, -28800, -28800⟩, ⟨-1633269600, -28800, -25200⟩, ⟨-1615129200, -28800, -28800⟩,
    ⟨-1601820000, -28800, -25200⟩, ⟨-1583679600, -28800, -28800⟩, ⟨-880207200, -28800, -25200⟩,
    ⟨-769395600, -28800, -25200⟩, ⟨-765385200, -28800, -28800⟩, ⟨-687967140, -28800, -25200⟩,
    ⟨-662655600, -28800, -28800⟩, ⟨-620838000, -28800, -25200⟩, ⟨-608137200, -28800, -28800⟩,
    ⟨-589388400, -28800, -25200⟩, ⟨-576082800, -28800, -28800⟩, ⟨-557938800, -28800, -25200⟩,
    ⟨-544633200, -28800, -28800⟩, ⟨-526489200, -28800, -25200⟩, ⟨-513183600, -28800, -28800⟩,
    ⟨-495039600, -28800, -25200⟩, ⟨-481734000, -28800, -28800⟩, ⟨-463590000, -28800, -25200⟩,
    ⟨-450284400, -28800, -28800⟩, ⟨-431535600, -28800, -25200⟩, ⟨-418230000, -28800, -28800⟩,
    ⟨-400086000, -28800, -25200⟩, ⟨-386780400, -28800, -28800⟩, ⟨-368636400, -28800, -25200⟩,
    ⟨-355330800, -28800, -28800⟩, ⟨-337186800, -28800, -25200⟩, ⟨-323881200, -28800, -28800⟩,
    ⟨-305737200, -28800, -25200⟩, ⟨-292431600, -28800, -28800⟩, ⟨-273682800, -28800, -25200⟩,
    ⟨-260982000, -28800, -28800⟩, ⟨-242233200, -28800, -25200⟩, ⟨-226508400, -28800, -28800⟩,
    ⟨-210783600, -28800, -25200⟩, ⟨-195058800, -28800, -28800⟩, ⟨-179334000, -28800, -25200⟩,
    ⟨-163609200, -28800, -28800⟩, ⟨-147884400, -28800, -25200⟩, ⟨-131554800, -28800, -28800⟩,
    ⟨-116434800, -28800, -25200⟩, ⟨-100105200, -28800, -28800⟩, ⟨-84376800, -28800, -25200⟩,
    ⟨-68655600, -28800, -28800⟩, ⟨-52927200, -28800, -25200⟩, ⟨-37206000, -28800, -28800⟩,
    ⟨-21477600, -28800, -25200⟩, ⟨-5756400, -28800, -28800⟩, ⟨9972000, -28800, -25200⟩,
    ⟨25693200, -28800, -28800⟩, ⟨41421600, -28800, -25200⟩, ⟨57747600, -28800, -28800⟩,
    ⟨73476000, -28800, -25200⟩, ⟨89197200, -28800, -28800⟩, ⟨104925600, -28800, -25200⟩,
    ⟨120646800, -28800, -28800⟩, ⟨126698400, -28800, -25200⟩, ⟨152096400, -28800, -28800⟩,
    ⟨162381600, -28800, -25200⟩, ⟨183546000, -28800, -28800⟩, ⟨199274400, -28800, -25200⟩,
    ⟨215600400, -28800, -28800⟩, ⟨230724000, -28800, -25200⟩, ⟨247050000, -28800, -28800⟩,
    ⟨262778400, -28800, -25200⟩, ⟨278499600, -28800, -28800⟩, ⟨294228000, -28800, -25200⟩,
    ⟨309949200, -28800, -28800⟩, ⟨325677600, -28800, -25200⟩, ⟨341398800, -28800, -28800⟩,
    ⟨357127200, -28800, -25200⟩, ⟨372848400, -28800, -28800⟩, ⟨388576800, -28800, -25200⟩,
    ⟨404902800, -28800, -28800⟩, ⟨420026400, -28800, -25200⟩, ⟨436352400, -28800, -28800⟩,
    ⟨452080800, -28800, -25200⟩, ⟨467802000, -28800, -28800⟩, ⟨483530400, -28800, -25200⟩,
    ⟨499251600, -28800, -28800⟩, ⟨514980000, -28800, -25200⟩, ⟨530701200, -28800, -28800⟩,
    ⟨544615200, -28800, -25200⟩, ⟨562150800, -28800, -28800⟩, ⟨576064800, -28800, -25200⟩,
    ⟨594205200, -28800, -28800⟩, ⟨607514400, -28800, -25200⟩, ⟨625654800, -28800, -28800⟩,
    ⟨638964000, -28800, -25200⟩, ⟨657104400, -28800, -28800⟩, ⟨671018400, -28800, -25200⟩,
    ⟨688554000, -28800, -28800⟩, ⟨702468000, -28800, -25200⟩, ⟨720003600, -28800, -28800⟩,
    ⟨733917600, -28800, -25200⟩, ⟨752058000, -28800, -28800⟩, ⟨765367200, -28800, -25200⟩,
    ⟨783507600, -28800, -28800⟩, ⟨796816800, -28800, -25200⟩, ⟨814957200, -28800, -28800⟩,
    ⟨828871200, -28800, -25200⟩, ⟨846406800, -28800, -28800⟩, ⟨860320800, -28800, -25200⟩,
    ⟨877856400, -28800, -28800⟩, ⟨891770400, -28800, -25200⟩, ⟨909306000, -28800, -28800⟩,
    ⟨923220000, -28800, -25200⟩, ⟨941360400, -28800, -28800⟩, ⟨954669600, -28800, -25200⟩,
    ⟨972810000, -28800, -28800⟩, ⟨986119200, -28800, -25200⟩, ⟨1004259600, -28800, -28800⟩,
    ⟨1018173600, -28800, -25200⟩, ⟨1035709200, -28800, -28800⟩, ⟨1049623200, -28800, -25200⟩,
    ⟨1067158800, -28800, -28800⟩, ⟨1081072800, -28800, -25200⟩, ⟨1099213200, -28800, -28800⟩,
    ⟨1112522400, -28800, -25200⟩, ⟨1130662800, -28800, -28800⟩, ⟨1143972000, -28800, -25200⟩,
    ⟨1162112400, -28800, -28800⟩, ⟨1173607200, -28800, -25200⟩, ⟨1194166800, -28800, -28800⟩,
    ⟨1205056800, -28800, -25200⟩, ⟨1225616400, -28800, -28800⟩, ⟨1236506400, -28800, -25200⟩,
    ⟨1257066000, -28800, -28800⟩, ⟨1268560800, -28800, -25200⟩, ⟨1289120400, -28800, -28800⟩,
    ⟨1300010400, -28800, -25200⟩, ⟨1320570000, -28800, -28800⟩, ⟨1331460000, -28800, -25200⟩,
    ⟨1352019600, -28800, -28800⟩, ⟨1362909600, -28800, -25200⟩, ⟨1383469200, -28800, -28800⟩,
    ⟨1394359200, -28800, -25200⟩, ⟨1414918800, -28800, -28800⟩, ⟨1425808800, -28800, -25200⟩,
    ⟨1446368400, -28800, -28800⟩, ⟨1457863200, -28800, -25200⟩, ⟨1478422800, -28800, -28800⟩,
    ⟨1489312800, -28800, -25200⟩, ⟨1509872400, -28800, -28800⟩, ⟨1520762400, -28800, -25200⟩,
    ⟨1541322000, -28800, -28800⟩, ⟨1552212000, -28800, -25200⟩, ⟨1572771600, -28800, -28800⟩,
    ⟨1583661600, -28800, -25200⟩, ⟨1604221200, -28800, -28800⟩, ⟨1615716000, -28800, -25200⟩,
    ⟨1636275600, -28800, -28800⟩, ⟨1647165600, -28800, -25200⟩, ⟨1667725200, -28800, -28800⟩,
    ⟨1678615200, -28800, -25200⟩, ⟨1699174800, -28800, -28800⟩, ⟨1710064800, -28800, -25200⟩,
    ⟨1730624400, -28800, -28800⟩, ⟨1741514400, -28800, -25200⟩, ⟨1762074000, -28800, -28800⟩,
    ⟨1772964000, -28800, -25200⟩, ⟨1793523600, -28800, -28800⟩, ⟨1805018400, -28800, -25200⟩,
    ⟨1825578000, -28800, -28800⟩, ⟨1836468000, -28800, -25200⟩, ⟨1857027600, -28800, -28800⟩,
    ⟨1867917600, -28800, -25200⟩, ⟨1888477200, -28800, -28800⟩, ⟨1899367200, -28800, -25200⟩,
    ⟨1919926800, -28800, -28800⟩, ⟨1930816800, -28800, -25200⟩, ⟨1951376400, -28800, -28800⟩,
    ⟨1962871200, -28800, -25200⟩, ⟨1983430800, -28800, -28800⟩, ⟨1994320800, -28800, -25200⟩,
    ⟨2014880400, -28800, -28800⟩, ⟨2025770400, -28800, -25200⟩, ⟨2046330000, -28800, -28800⟩,
    ⟨2057220000, -28800, -25200⟩, ⟨2077779600, -28800, -28800⟩, ⟨2088669600, -28800, -25200⟩,
    ⟨2109229200, -28800, -28800⟩, ⟨2120119200, -28800, -25200⟩, ⟨2140678800, -28800, -28800⟩]⟩

/-- Asia/Tokyo. -/
def asiaTokyo : ZoneTable := ⟨33539, 32400,
  [⟨-2147483648, 32400, 32400⟩, ⟨-683802000, 32400, 36000⟩, ⟨-672310800, 32400, 32400⟩,
    ⟨-654771600, 32400, 36000⟩, ⟨-640861200, 32400, 32400⟩, ⟨-620298000, 32400, 36000⟩,
    ⟨-609411600, 32400, 32400⟩, ⟨-588848400, 32400, 36000⟩, ⟨-577962000, 32400, 32400⟩]⟩

/-- Asia/Kolkata. -/
def asiaKolkata : ZoneTable := ⟨21208, 19800,
  [⟨-2147483648, 19270, 19270⟩, ⟨-2019705670, 19800, 19800⟩, ⟨-891581400, 19800, 23400⟩,
    ⟨-872058600, 19800, 19800⟩, ⟨-862637400, 19800, 23400⟩, ⟨-764145000, 19800, 19800⟩]⟩

/-- Australia/Lord_Howe. -/
def australiaLordHowe : ZoneTable := ⟨38180, 37800,
  [⟨-2147483648, 36000, 36000⟩, ⟨352216800, 37800, 37800⟩, ⟨372785400, 37800, 41400⟩,
    ⟨384273000, 37800, 37800⟩, ⟨404839800, 37800, 41400⟩, ⟨415722600, 37800, 37800⟩,
    ⟨436289400, 37800, 41400⟩, ⟨447172200, 37800, 37800⟩, ⟨467739000, 37800, 41400⟩,
    ⟨478621800, 37800, 37800⟩, ⟨499188600, 37800, 39600⟩, ⟨511282800, 37800, 37800⟩,
    ⟨530033400, 37800, 39600⟩, ⟨542732400, 37800, 37800⟩, ⟨562087800, 37800, 39600⟩,
    ⟨574786800, 37800, 37800⟩, ⟨594142200, 37800, 39600⟩, ⟨606236400, 37800, 37800⟩,
    ⟨625591800, 37800, 39600⟩, ⟨636476400, 37800, 37800⟩, ⟨657041400, 37800, 39600⟩,
    ⟨667926000, 37800, 37800⟩, ⟨688491000, 37800, 39600⟩, ⟨699375600, 37800, 37800⟩,
    ⟨719940600, 37800, 39600⟩, ⟨731430000, 37800, 37800⟩, ⟨751995000, 37800, 39600⟩,
    ⟨762879600, 37800, 37800⟩, ⟨783444600, 37800, 39600⟩, ⟨794329200, 37800, 37800⟩,
    ⟨814894200, 37800, 39600⟩, ⟨828198000, 37800, 37800⟩, ⟨846343800, 37800, 39600⟩,
    ⟨859647600, 37800, 37800⟩, ⟨877793400, 37800, 39600⟩, ⟨891097200, 37800, 37800⟩,
    ⟨909243000, 37800, 39600⟩, ⟨922546800, 37800, 37800⟩, ⟨941297400, 37800, 39600⟩,
    ⟨953996400, 37800, 37800⟩, ⟨967303800, 37800, 39600⟩, ⟨985446000, 37800, 37800⟩,
    ⟨1004196600, 37800, 39600⟩, ⟨1017500400, 37800, 37800⟩, ⟨1035646200, 37800, 39600⟩,
    ⟨1048950000, 37800, 37800⟩, ⟨1067095800, 37800, 39600⟩, ⟨1080399600, 37800, 37800⟩,
    ⟨1099150200, 37800, 39600⟩, ⟨1111849200, 37800, 37800⟩, ⟨1130599800, 37800, 39600⟩,
    ⟨1143903600, 37800, 37800⟩, ⟨1162049400, 37800, 39600⟩, ⟨1174748400, 37800, 37800⟩,
    ⟨1193499000, 37800, 39600⟩, ⟨1207407600, 37800, 37800⟩, ⟨1223134200, 37800, 39600⟩,
    ⟨1238857200, 37800, 37800⟩, ⟨1254583800, 37800, 39600⟩, ⟨1270306800, 37800, 37800⟩,
    ⟨1286033400, 37800, 39600⟩, ⟨1301756400, 37800, 37800⟩, ⟨1317483000, 37800, 39600⟩,
    ⟨1333206000, 37800, 37800⟩, ⟨1349537400, 37800, 39600⟩, ⟨1365260400, 37800, 37800⟩,
    ⟨1380987000, 37800, 39600⟩, ⟨1396710000, 37800, 37800⟩, ⟨1412436600, 37800, 39600⟩,
    ⟨1428159600, 37800, 37800⟩, ⟨1443886200, 37800, 39600⟩, ⟨1459609200, 37800, 37800⟩,
    ⟨1475335800, 37800, 39600⟩, ⟨1491058800, 37800, 37800⟩, ⟨1506785400, 37800, 39600⟩,
    ⟨1522508400, 37800, 37800⟩, ⟨1538839800, 37800, 39600⟩, ⟨1554562800, 37800, 37800⟩,
    ⟨1570289400, 37800, 39600⟩, ⟨1586012400, 37800, 37800⟩, ⟨1601739000, 37800, 39600⟩,
    ⟨1617462000, 37800, 37800⟩, ⟨1633188600, 37800, 39600⟩, ⟨1648911600, 37800, 37800⟩,
    ⟨1664638200, 37800, 39600⟩, ⟨1680361200, 37800, 37800⟩, ⟨1696087800, 37800, 39600⟩,
    ⟨1712415600, 37800, 37800⟩, ⟨1728142200, 37800, 39600⟩, ⟨1743865200, 37800, 37800⟩,
    ⟨1759591800, 37800, 39600⟩, ⟨1775314800, 37800, 37800⟩, ⟨1791041400, 37800, 39600⟩,
    ⟨1806764400, 37800, 37800⟩, ⟨1822491000, 37800, 39600⟩, ⟨1838214000, 37800, 37800⟩,
    ⟨1853940600, 37800, 39600⟩, ⟨1869663600, 37800, 37800⟩, ⟨1885995000, 37800, 39600⟩,
    ⟨1901718000, 37800, 37800⟩, ⟨1917444600, 37800, 39600⟩, ⟨1933167600, 37800, 37800⟩,
    ⟨1948894200, 37800, 39600⟩, ⟨1964617200, 37800, 37800⟩, ⟨1980343800, 37800, 39600⟩,
    ⟨1996066800, 37800, 37800⟩, ⟨2011793400, 37800, 39600⟩, ⟨2027516400, 37800, 37800⟩,
    ⟨2043243000, 37800, 39600⟩, ⟨2058966000, 37800, 37800⟩, ⟨2075297400, 37800, 39600⟩,
    ⟨2091020400, 37800, 37800⟩, ⟨2106747000, 37800, 39600⟩, ⟨2122470000, 37800, 37800⟩,
    ⟨2138196600, 37800, 39600⟩, ⟨2147483647, 37800, 39600⟩]⟩

/-- America/Sao_Paulo. -/
def americaSaoPaulo : ZoneTable := ⟨-11188, -10800,
  [⟨-1767214412, -10800, -10800⟩, ⟨-1206957600, -10800, -7200⟩, ⟨-1191362400, -10800, -10800⟩,
    ⟨-1175374800, -10800, -7200⟩, ⟨-1159826400, -10800, -10800⟩, ⟨-633819600, -10800, -7200⟩,
    ⟨-622069200, -10800, -10800⟩, ⟨-602283600, -10800, -7200⟩, ⟨-591832800, -10800, -10800⟩,
    ⟨-570747600, -10800, -7200⟩, ⟨-560210400, -10800, -10800⟩, ⟨-539125200, -10800, -7200⟩,
    ⟨-531352800, -10800, -10800⟩, ⟨-195426000, -10800, -7200⟩, ⟨-184197600, -10800, -10800⟩,
    ⟨-155163600, -10800, -7200⟩, ⟨-150069600, -10800, -10800⟩, ⟨-128898000, -10800, -7200⟩,
    ⟨-121125600, -10800, -10800⟩, ⟨-99954000, -10800, -7200⟩, ⟨-89589600, -10800, -10800⟩,
    ⟨-68418000, -10800, -7200⟩, ⟨-57967200, -10800, -10800⟩, ⟨499748400, -10800, -7200⟩,
    ⟨511236000, -10800, -10800⟩, ⟨530593200, -10800, -7200⟩, ⟨540266400, -10800, -10800⟩,
    ⟨562129200, -10800, -7200⟩, ⟨571197600, -10800, -10800⟩, ⟨592974000, -10800, -7200⟩,
    ⟨602042400, -10800, -10800⟩, ⟨624423600, -10800, -7200⟩, ⟨634701600, -10800, -10800⟩,
    ⟨656478000, -10800, -7200⟩, ⟨666756000, -10800, -10800⟩, ⟨687927600, -10800, -7200⟩,
    ⟨697600800, -10800, -10800⟩, ⟨719982000, -10800, -7200⟩, ⟨728445600, -10800, -10800⟩,
    ⟨750826800, -10800, -7200⟩, ⟨761709600, -10800, -10800⟩, ⟨782276400, -10800, -7200⟩,
    ⟨793159200, -10800, -10800⟩, ⟨813726000, -10800, -7200⟩, ⟨824004000, -10800, -10800⟩,
    ⟨844570800, -10800, -7200⟩, ⟨856058400, -10800, -10800⟩, ⟨876106800, -10800, -7200⟩,
    ⟨888717600, -10800, -10800⟩, ⟨908074800, -10800, -7200⟩, ⟨919562400, -10800, -10800⟩,
    ⟨938919600, -10800, -7200⟩, ⟨951616800, -10800, -10800⟩, ⟨970974000, -10800, -7200⟩,
    ⟨982461600, -10800, -10800⟩, ⟨1003028400, -10800, -7200⟩, ⟨1013911200, -10800, -10800⟩,
    ⟨1036292400, -10800, -7200⟩, ⟨1045360800, -10800, -10800⟩, ⟨1066532400, -10800, -7200⟩,
    ⟨1076810400, -10800, -10800⟩, ⟨1099364400, -10800, -7200⟩, ⟨1108864800, -10800, -10800⟩,
    ⟨1129431600, -10800, -7200⟩, ⟨1140314400, -10800, -10800⟩, ⟨1162695600, -10800, -7200⟩,
    ⟨1172368800, -10800, -10800⟩, ⟨1192330800, -10800, -7200⟩, ⟨1203213600, -10800, -10800⟩,
    ⟨1224385200, -10800, -7200⟩, ⟨1234663200, -10800, -10800⟩, ⟨1255834800, -10800, -7200⟩,
    ⟨1266717600, -10800, -10800⟩, ⟨1287284400, -10800, -7200⟩, ⟨1298167200, -10800, -10800⟩,
    ⟨1318734000, -10800, -7200⟩, ⟨1330221600, -10800, -10800⟩, ⟨1350788400, -10800, -7200⟩,
    ⟨1361066400, -10800, -10800⟩, ⟨1382238000, -10800, -7200⟩, ⟨1392516000, -10800, -10800⟩,
    ⟨1413687600, -10800, -7200⟩, ⟨1424570400, -10800, -10800⟩, ⟨1445137200, -10800, -7200⟩,
    ⟨1456020000, -10800, -10800⟩, ⟨1476586800, -10800, -7200⟩, ⟨1487469600, -10800, -10800⟩,
    ⟨1508036400, -10800, -7200⟩, ⟨1518919200, -10800, -10800⟩, ⟨1541300400, -10800, -7200⟩,
    ⟨1550368800, -10800, -10800⟩, ⟨2147483647, -10800, -10800⟩]⟩

/-- Pacific/Apia. -/
def pacificApia : ZoneTable := ⟨45184, 46800,
  [⟨-2147483648, -41216, -41216⟩, ⟨-1861878784, -41400, -41400⟩, ⟨-631110600, -39600, -39600⟩,
    ⟨1285498800, -39600, -36000⟩, ⟨1301752800, -39600, -39600⟩, ⟨1316872800, -39600, -36000⟩,
    ⟨1325239200, 46800, 50400⟩, ⟨1333202400, 46800, 46800⟩, ⟨1348927200, 46800, 50400⟩,
    ⟨1365256800, 46800, 46800⟩, ⟨1380376800, 46800, 50400⟩, ⟨1396706400, 46800, 46800⟩,
    ⟨1411826400, 46800, 50400⟩, ⟨1428156000, 46800, 46800⟩, ⟨1443276000, 46800, 50400⟩,
    ⟨1459605600, 46800, 46800⟩, ⟨1474725600, 46800, 50400⟩, ⟨1491055200, 46800, 46800⟩,
    ⟨1506175200, 46800, 50400⟩, ⟨1522504800, 46800, 46800⟩, ⟨1538229600, 46800, 50400⟩,
    ⟨1554559200, 46800, 46800⟩, ⟨1569679200, 46800, 50400⟩, ⟨1586008800, 46800, 46800⟩,
    ⟨1601128800, 46800, 50400⟩, ⟨1617458400, 46800, 46800⟩, ⟨2147483647, 46800, 46800⟩]⟩

/-- Asia/Kathmandu. -/
def asiaKathmandu : ZoneTable := ⟨20476, 20700,
  [⟨-1577943676, 19800, 19800⟩, ⟨504901800, 20700, 20700⟩, ⟨2147483647, 20700, 20700⟩]⟩

/-- America/St_Johns. -/
def americaStJohns : ZoneTable := ⟨-12652, -12600,
  [⟨-2147483648, -12652, -12652⟩, ⟨-1664130548, -12652, -9052⟩, ⟨-1650137348, -12652, -12652⟩,
    ⟨-1632076148, -12652, -9052⟩, ⟨-1615145348, -12652, -12652⟩, ⟨-1598650148, -12652, -9052⟩,
    ⟨-1590100148, -12652, -12652⟩, ⟨-1567286948, -12652, -9052⟩, ⟨-1551565748, -12652, -12652⟩,
    ⟨-1535837348, -12652, -9052⟩, ⟨-1520116148, -12652, -12652⟩, ⟨-1503782948, -12652, -9052⟩,
    ⟨-1488666548, -12652, -12652⟩, ⟨-1472333348, -12652, -9052⟩, ⟨-1457216948, -12652, -12652⟩,
    ⟨-1440883748, -12652, -9052⟩, ⟨-1425767348, -12652, -12652⟩, ⟨-1409434148, -12652, -9052⟩,
    ⟨-1394317748, -12652, -12652⟩, ⟨-1377984548, -12652, -9052⟩, ⟨-1362263348, -12652, -12652⟩,
    ⟨-1346534948, -12652, -9052⟩, ⟨-1330813748, -12652, -12652⟩, ⟨-1314480548, -12652, -9052⟩,
    ⟨-1299364148, -12652, -12652⟩, ⟨-1283030948, -12652, -9052⟩, ⟨-1267914548, -12652, -12652⟩,
    ⟨-1251581348, -12652, -9052⟩, ⟨-1236464948, -12652, -12652⟩, ⟨-1220131748, -12652, -9052⟩,
    ⟨-1205015348, -12652, -12652⟩, ⟨-1188682148, -12652, -9052⟩, ⟨-1172960948, -12652, -12652⟩,
    ⟨-1156627748, -12652, -9052⟩, ⟨-1141511348, -12652, -12652⟩, ⟨-1125178148, -12652, -9052⟩,
    ⟨-1110061748, -12652, -12652⟩, ⟨-1096921748, -12600, -12600⟩, ⟨-1093728600, -12600, -9000⟩,
    ⟨-1078612200, -12600, -12600⟩, ⟨-1061670600, -12600, -9000⟩, ⟨-1048973400, -12600, -12600⟩,
    ⟨-1030221000, -12600, -9000⟩, ⟨-1017523800, -12600, -12600⟩, ⟨-998771400, -12600, -9000⟩,
    ⟨-986074200, -12600, -12600⟩, ⟨-966717000, -12600, -9000⟩, ⟨-954624600, -12600, -12600⟩,
    ⟨-935267400, -12600, -9000⟩, ⟨-922570200, -12600, -12600⟩, ⟨-903817800, -12600, -9000⟩,
    ⟨-891120600, -12600, -12600⟩, ⟨-872368200, -12600, -9000⟩, ⟨-769395600, -12600, -9000⟩,
    ⟨-765401400, -12600, -12600⟩, ⟨-746044200, -12600, -9000⟩, ⟨-733347000, -12600, -12600⟩,
    ⟨-714594600, -12600, -9000⟩, ⟨-701897400, -12600, -12600⟩, ⟨-683145000, -12600, -9000⟩,
    ⟨-670447800, -12600, -12600⟩, ⟨-651695400, -12600, -9000⟩, ⟨-638998200, -12600, -12600⟩,
    ⟨-619641000, -12600, -9000⟩, ⟨-606943800, -12600, -12600⟩, ⟨-589401000, -12600, -9000⟩,
    ⟨-576099000, -12600, -12600⟩, ⟨-557951400, -12600, -9000⟩, ⟨-544649400, -12600, -12600⟩,
    ⟨-526501800, -12600, -9000⟩, ⟨-513199800, -12600, -12600⟩, ⟨-495052200, -12600, -9000⟩,
    ⟨-481750200, -12600, -12600⟩, ⟨-463602600, -12600, -9000⟩, ⟨-450300600, -12600, -12600⟩,
    ⟨-431548200, -12600, -9000⟩, ⟨-418246200, -12600, -12600⟩, ⟨-400098600, -12600, -9000⟩,
    ⟨-386796600, -12600, -12600⟩, ⟨-368649000, -12600, -9000⟩, ⟨-355347000, -12600, -12600⟩,
    ⟨-337199400, -12600, -9000⟩, ⟨-323897400, -12600, -12600⟩, ⟨-305749800, -12600, -9000⟩,
    ⟨-289423800, -12600, -12600⟩, ⟨-273695400, -12600, -9000⟩, ⟨-257974200, -12600, -12600⟩,
    ⟨-242245800, -12600, -9000⟩, ⟨-226524600, -12600, -12600⟩, ⟨-210796200, -12600, -9000⟩,
    ⟨-195075000, -12600, -12600⟩, ⟨-179346600, -12600, -9000⟩, ⟨-163625400, -12600, -12600⟩,
    ⟨-147897000, -12600, -9000⟩, ⟨-131571000, -12600, -12600⟩, ⟨-116447400, -12600, -9000⟩,
    ⟨-100121400, -12600, -12600⟩, ⟨-84393000, -12600, -9000⟩, ⟨-68671800, -12600, -12600⟩,
    ⟨-52943400, -12600, -9000⟩, ⟨-37222200, -12600, -12600⟩, ⟨-21493800, -12600, -9000⟩,
    ⟨-5772600, -12600, -12600⟩, ⟨9955800, -12600, -9000⟩, ⟨25677000, -12600, -12600⟩,
    ⟨41405400, -12600, -9000⟩, ⟨57731400, -12600, -12600⟩, ⟨73459800, -12600, -9000⟩,
    ⟨89181000, -12600, -12600⟩, ⟨104909400, -12600, -9000⟩, ⟨120630600, -12600, -12600⟩,
    ⟨136359000, -12600, -9000⟩, ⟨152080200, -12600, -12600⟩, ⟨167808600, -12600, -9000⟩,
    ⟨183529800, -12600, -12600⟩, ⟨199258200, -12600, -9000⟩, ⟨215584200, -12600, -12600⟩,
    ⟨230707800, -12600, -9000⟩, ⟨247033800, -12600, -12600⟩, ⟨262762200, -12600, -9000⟩,
    ⟨278483400, -12600, -12600⟩, ⟨294211800, -12600, -9000⟩, ⟨309933000, -12600, -12600⟩,
    ⟨325661400, -12600, -9000⟩, ⟨341382600, -12600, -12600⟩, ⟨357111000, -12600, -9000⟩,
    ⟨372832200, -12600, -12600⟩, ⟨388560600, -12600, -9000⟩, ⟨404886600, -12600, -12600⟩,
    ⟨420010200, -12600, -9000⟩, ⟨436336200, -12600, -12600⟩, ⟨452064600, -12600, -9000⟩,
    ⟨467785800, -12600, -12600⟩, ⟨483514200, -12600, -9000⟩, ⟨499235400, -12600, -12600⟩,
    ⟨514963800, -12600, -9000⟩, ⟨530685000, -12600, -12600⟩, ⟨544591860, -12600, -9000⟩,
    ⟨562127460, -12600, -12600⟩, ⟨576041460, -12600, -5400⟩, ⟨594178260, -12600, -12600⟩,
    ⟨607491060, -12600, -9000⟩, ⟨625631460, -12600, -12600⟩, ⟨638940660, -12600, -9000⟩,
    ⟨657081060, -12600, -12600⟩, ⟨670995060, -12600, -9000⟩, ⟨688530660, -12600, -12600⟩,
    ⟨702444660, -12600, -9000⟩, ⟨719980260, -12600, -12600⟩, ⟨733894260, -12600, -9000⟩,
    ⟨752034660, -12600, -12600⟩, ⟨765343860, -12600, -9000⟩, ⟨783484260, -12600, -12600⟩,
    ⟨796793460, -12600, -9000⟩, ⟨814933860, -12600, -12600⟩, ⟨828847860, -12600, -9000⟩,
    ⟨846383460, -12600, -12600⟩, ⟨860297460, -12600, -9000⟩, ⟨877833060, -12600, -12600⟩,
    ⟨891747060, -12600, -9000⟩, ⟨909282660, -12600, -12600⟩, ⟨923196660, -12600, -9000⟩,
    ⟨941337060, -12600, -12600⟩, ⟨954646260, -12600, -9000⟩, ⟨972786660, -12600, -12600⟩,
    ⟨986095860, -12600, -9000⟩, ⟨1004236260, -12600, -12600⟩, ⟨1018150260, -12600, -9000⟩,
    ⟨1035685860, -12600, -12600⟩, ⟨1049599860, -12600, -9000⟩, ⟨1067135460, -12600, -12600⟩,
    ⟨1081049460, -12600, -9000⟩, ⟨1099189860, -12600, -12600⟩, ⟨1112499060, -12600, -9000⟩,
    ⟨1130639460, -12600, -12600⟩, ⟨1143948660, -12600, -9000⟩, ⟨1162089060, -12600, -12600⟩,
    ⟨1173583860, -12600, -9000⟩, ⟨1194143460, -12600, -12600⟩, ⟨1205033460, -12600, -9000⟩,
    ⟨1225593060, -12600, -12600⟩, ⟨1236483060, -12600, -9000⟩, ⟨1257042660, -12600, -12600⟩,
    ⟨1268537460, -12600, -9000⟩, ⟨1289097060, -12600, -12600⟩, ⟨1299987060, -12600, -9000⟩,
    ⟨1320553800, -12600, -12600⟩, ⟨1331443800, -12600, -9000⟩, ⟨1352003400, -12600, -12600⟩,
    ⟨1362893400, -12600, -9000⟩, ⟨1383453000, -12600, -12600⟩, ⟨1394343000, -12600, -9000⟩,
    ⟨1414902600, -12600, -12600⟩, ⟨1425792600, -12600, -9000⟩, ⟨1446352200, -12600, -12600⟩,
    ⟨1457847000, -12600, -9000⟩, ⟨1478406600, -12600, -12600⟩, ⟨1489296600, -12600, -9000⟩,
    ⟨1509856200, -12600, -12600⟩, ⟨1520746200, -12600, -9000⟩, ⟨1541305800, -12600, -12600⟩,
    ⟨1552195800, -12600, -9000⟩, ⟨1572755400, -12600, -12600⟩, ⟨1583645400, -12600, -9000⟩,
    ⟨1604205000, -12600, -12600⟩, ⟨1615699800, -12600, -9000⟩, ⟨1636259400, -12600, -12600⟩,
    ⟨1647149400, -12600, -9000⟩, ⟨1667709000, -12600, -12600⟩, ⟨1678599000, -12600, -9000⟩,
    ⟨1699158600, -12600, -12600⟩, ⟨1710048600, -12600, -9000⟩, ⟨1730608200, -12600, -12600⟩,
    ⟨1741498200, -12600, -9000⟩, ⟨1762057800, -12600, -12600⟩, ⟨1772947800, -12600, -9000⟩,
    ⟨1793507400, -12600, -12600⟩, ⟨1805002200, -12600, -9000⟩, ⟨1825561800, -12600, -12600⟩,
    ⟨1836451800, -12600, -9000⟩, ⟨1857011400, -12600, -12600⟩, ⟨1867901400, -12600, -9000⟩,
    ⟨1888461000, -12600, -12600⟩, ⟨1899351000, -12600, -9000⟩, ⟨1919910600, -12600, -12600⟩,
    ⟨1930800600, -12600, -9000⟩, ⟨1951360200, -12600, -12600⟩, ⟨1962855000, -12600, -9000⟩,
    ⟨1983414600, -12600, -12600⟩, ⟨1994304600, -12600, -9000⟩, ⟨2014864200, -12600, -12600⟩,
    ⟨2025754200, -12600, -9000⟩, ⟨2046313800, -12600, -12600⟩, ⟨2057203800, -12600, -9000⟩,
    ⟨2077763400, -12600, -12600⟩, ⟨2088653400, -12600, -9000⟩, ⟨2109213000, -12600, -12600⟩,
    ⟨2120103000, -12600, -9000⟩, ⟨2140662600, -12600, -12600⟩]⟩

/-- Europe/London. -/
def europeLondon : ZoneTable := ⟨-75, 0,
  [⟨-2147483648, 0, 0⟩, ⟨-1691964000, 0, 3600⟩, ⟨-1680472800, 0, 0⟩, ⟨-1664143200, 0, 3600⟩,
    ⟨-1650146400, 0, 0⟩, ⟨-1633903200, 0, 3600⟩, ⟨-1617487200, 0, 0⟩, ⟨-1601848800, 0, 3600⟩,
    ⟨-1586037600, 0, 0⟩, ⟨-1570399200, 0, 3600⟩, ⟨-1552168800, 0, 0⟩, ⟨-1538344800, 0, 3600⟩,
    ⟨-1522533600, 0, 0⟩, ⟨-1507500000, 0, 3600⟩, ⟨-1490565600, 0, 0⟩, ⟨-1473631200, 0, 3600⟩,
    ⟨-1460930400, 0, 0⟩, ⟨-1442786400, 0, 3600⟩, ⟨-1428876000, 0, 0⟩, ⟨-1410732000, 0, 3600⟩,
    ⟨-1396216800, 0, 0⟩, ⟨-1379282400, 0, 3600⟩, ⟨-1364767200, 0, 0⟩, ⟨-1348437600, 0, 3600⟩,
    ⟨-1333317600, 0, 0⟩, ⟨-1315778400, 0, 3600⟩, ⟨-1301263200, 0, 0⟩, ⟨-1284328800, 0, 3600⟩,
    ⟨-1269813600, 0, 0⟩, ⟨-1253484000, 0, 3600⟩, ⟨-1238364000, 0, 0⟩, ⟨-1221429600, 0, 3600⟩,
    ⟨-1206914400, 0, 0⟩, ⟨-1189980000, 0, 3600⟩, ⟨-1175464800, 0, 0⟩, ⟨-1159135200, 0, 3600⟩,
    ⟨-1143410400, 0, 0⟩, ⟨-1126476000, 0, 3600⟩, ⟨-1111960800, 0, 0⟩, ⟨-1095631200, 0, 3600⟩,
    ⟨-1080511200, 0, 0⟩, ⟨-1063576800, 0, 3600⟩, ⟨-1049061600, 0, 0⟩, ⟨-1032127200, 0, 3600⟩,
    ⟨-1017612000, 0, 0⟩, ⟨-1001282400, 0, 3600⟩, ⟨-986162400, 0, 0⟩, ⟨-969228000, 0, 3600⟩,
    ⟨-950479200, 0, 0⟩, ⟨-942012000, 0, 3600⟩, ⟨-904518000, 3600, 7200⟩, ⟨-896050800, 0, 3600⟩,
    ⟨-875487600, 3600, 7200⟩, ⟨-864601200, 0, 3600⟩, ⟨-844038000, 3600, 7200⟩,
    ⟨-832546800, 0, 3600⟩, ⟨-812588400, 3600, 7200⟩, ⟨-798073200, 0, 3600⟩,
    ⟨-781052400, 3600, 7200⟩, ⟨-772066800, 0, 3600⟩, ⟨-764805600, 0, 0⟩, ⟨-748476000, 0, 3600⟩,
    ⟨-733356000, 0, 0⟩, ⟨-719445600, 0, 3600⟩, ⟨-717030000, 3600, 7200⟩, ⟨-706748400, 0, 3600⟩,
    ⟨-699487200, 0, 0⟩, ⟨-687996000, 0, 3600⟩, ⟨-668037600, 0, 0⟩, ⟨-654732000, 0, 3600⟩,
    ⟨-636588000, 0, 0⟩, ⟨-622072800, 0, 3600⟩, ⟨-605743200, 0, 0⟩, ⟨-590623200, 0, 3600⟩,
    ⟨-574293600, 0, 0⟩, ⟨-558568800, 0, 3600⟩, ⟨-542239200, 0, 0⟩, ⟨-527119200, 0, 3600⟩,
    ⟨-512604000, 0, 0⟩, ⟨-496274400, 0, 3600⟩, ⟨-481154400, 0, 0⟩, ⟨-464220000, 0, 3600⟩,
    ⟨-449704800, 0, 0⟩, ⟨-432165600, 0, 3600⟩, ⟨-417650400, 0, 0⟩, ⟨-401320800, 0, 3600⟩,
    ⟨-386200800, 0, 0⟩, ⟨-369266400, 0, 3600⟩, ⟨-354751200, 0, 0⟩, ⟨-337816800, 0, 3600⟩,
    ⟨-323301600, 0, 0⟩, ⟨-306972000, 0, 3600⟩, ⟨-291852000, 0, 0⟩, ⟨-276732000, 0, 3600⟩,
    ⟨-257983200, 0, 0⟩, ⟨-245282400, 0, 3600⟩, ⟨-226533600, 0, 0⟩, ⟨-213228000, 0, 3600⟩,
    ⟨-195084000, 0, 0⟩, ⟨-182383200, 0, 3600⟩, ⟨-163634400, 0, 0⟩, ⟨-150933600, 0, 3600⟩,
    ⟨-132184800, 0, 0⟩, ⟨-119484000, 0, 3600⟩, ⟨-100735200, 0, 0⟩, ⟨-88034400, 0, 3600⟩,
    ⟨-68680800, 0, 0⟩, ⟨-59004000, 0, 3600⟩, ⟨-37242000, 0, 3600⟩, ⟨57722400, 0, 0⟩,
    ⟨69818400, 0, 3600⟩, ⟨89172000, 0, 0⟩, ⟨101268000, 0, 3600⟩, ⟨120621600, 0, 0⟩,
    ⟨132717600, 0, 3600⟩, ⟨152071200, 0, 0⟩, ⟨164167200, 0, 3600⟩, ⟨183520800, 0, 0⟩,
    ⟨196221600, 0, 3600⟩, ⟨214970400, 0, 0⟩, ⟨227671200, 0, 3600⟩, ⟨246420000, 0, 0⟩,
    ⟨259120800, 0, 3600⟩, ⟨278474400, 0, 0⟩, ⟨290570400, 0, 3600⟩, ⟨309924000, 0, 0⟩,
    ⟨322020000, 0, 3600⟩, ⟨341373600, 0, 0⟩, ⟨354675600, 0, 3600⟩, ⟨372819600, 0, 0⟩,
    ⟨386125200, 0, 3600⟩, ⟨404269200, 0, 0⟩, ⟨417574800, 0, 3600⟩, ⟨435718800, 0, 0⟩,
    ⟨449024400, 0, 3600⟩, ⟨467773200, 0, 0⟩, ⟨481078800, 0, 3600⟩, ⟨499222800, 0, 0⟩,
    ⟨512528400, 0, 3600⟩, ⟨530672400, 0, 0⟩, ⟨543978000, 0, 3600⟩, ⟨562122000, 0, 0⟩,
    ⟨575427600, 0, 3600⟩, ⟨593571600, 0, 0⟩, ⟨606877200, 0, 3600⟩, ⟨625626000, 0, 0⟩,
    ⟨638326800, 0, 3600⟩, ⟨657075600, 0, 0⟩, ⟨670381200, 0, 3600⟩, ⟨688525200, 0, 0⟩,
    ⟨701830800, 0, 3600⟩, ⟨719974800, 0, 0⟩, ⟨733280400, 0, 3600⟩, ⟨751424400, 0, 0⟩,
    ⟨764730000, 0, 3600⟩, ⟨782874000, 0, 0⟩, ⟨796179600, 0, 3600⟩, ⟨814323600, 0, 0⟩,
    ⟨828234000, 0, 3600⟩, ⟨846378000, 0, 0⟩, ⟨859683600, 0, 3600⟩, ⟨877827600, 0, 0⟩,
    ⟨891133200, 0, 3600⟩, ⟨909277200, 0, 0⟩, ⟨922582800, 0, 3600⟩, ⟨941331600, 0, 0⟩,
    ⟨954032400, 0, 3600⟩, ⟨972781200, 0, 0⟩, ⟨985482000, 0, 3600⟩, ⟨1004230800, 0, 0⟩,
    ⟨1017536400, 0, 3600⟩, ⟨1035680400, 0, 0⟩, ⟨1048986000, 0, 3600⟩, ⟨1067130000, 0, 0⟩,
    ⟨1080435600, 0, 3600⟩, ⟨1099184400, 0, 0⟩, ⟨1111885200, 0, 3600⟩, ⟨1130634000, 0, 0⟩,
    ⟨1143334800, 0, 3600⟩, ⟨1162083600, 0, 0⟩, ⟨1174784400, 0, 3600⟩, ⟨1193533200, 0, 0⟩,
    ⟨1206838800, 0, 3600⟩, ⟨1224982800, 0, 0⟩, ⟨1238288400, 0, 3600⟩, ⟨1256432400, 0, 0⟩,
    ⟨1269738000, 0, 3600⟩, ⟨1288486800, 0, 0⟩, ⟨1301187600, 0, 3600⟩, ⟨1319936400, 0, 0⟩,
    ⟨1332637200, 0, 3600⟩, ⟨1351386000, 0, 0⟩, ⟨1364691600, 0, 3600⟩, ⟨1382835600, 0, 0⟩,
    ⟨1396141200, 0, 3600⟩, ⟨1414285200, 0, 0⟩, ⟨1427590800, 0, 3600⟩, ⟨1445734800, 0, 0⟩,
    ⟨1459040400, 0, 3600⟩, ⟨1477789200, 0, 0⟩, ⟨1490490000, 0, 3600⟩, ⟨1509238800, 0, 0⟩,
    ⟨1521939600, 0, 3600⟩, ⟨1540688400, 0, 0⟩, ⟨1553994000, 0, 3600⟩, ⟨1572138000, 0, 0⟩,
    ⟨1585443600, 0, 3600⟩, ⟨1603587600, 0, 0⟩, ⟨1616893200, 0, 3600⟩, ⟨1635642000, 0, 0⟩,
    ⟨1648342800, 0, 3600⟩, ⟨1667091600, 0, 0⟩, ⟨1679792400, 0, 3600⟩, ⟨1698541200, 0, 0⟩,
    ⟨1711846800, 0, 3600⟩, ⟨1729990800, 0, 0⟩, ⟨1743296400, 0, 3600⟩, ⟨1761440400, 0, 0⟩,
    ⟨1774746000, 0, 3600⟩, ⟨1792890000, 0, 0⟩, ⟨1806195600, 0, 3600⟩, ⟨1824944400, 0, 0⟩,
    ⟨1837645200, 0, 3600⟩, ⟨1856394000, 0, 0⟩, ⟨1869094800, 0, 3600⟩, ⟨1887843600, 0, 0⟩,
    ⟨1901149200, 0, 3600⟩, ⟨1919293200, 0, 0⟩, ⟨1932598800, 0, 3600⟩, ⟨1950742800, 0, 0⟩,
    ⟨1964048400, 0, 3600⟩, ⟨1982797200, 0, 0⟩, ⟨1995498000, 0, 3600⟩, ⟨2014246800, 0, 0⟩,
    ⟨2026947600, 0, 3600⟩, ⟨2045696400, 0, 0⟩, ⟨2058397200, 0, 3600⟩, ⟨2077146000, 0, 0⟩,
    ⟨2090451600, 0, 3600⟩, ⟨2108595600, 0, 0⟩, ⟨2121901200, 0, 3600⟩, ⟨2140045200, 0, 0⟩]⟩

/-- The tables by the names of their places. -/
def byName : List (String × ZoneTable) := [
  ("Europe/Paris", europeParis),
  ("America/New_York", americaNewYork),
  ("America/Los_Angeles", americaLosAngeles),
  ("Asia/Tokyo", asiaTokyo),
  ("Asia/Kolkata", asiaKolkata),
  ("Australia/Lord_Howe", australiaLordHowe),
  ("America/Sao_Paulo", americaSaoPaulo),
  ("Pacific/Apia", pacificApia),
  ("Asia/Kathmandu", asiaKathmandu),
  ("America/St_Johns", americaStJohns),
  ("Europe/London", europeLondon),
  ("Asia/Calcutta", asiaKolkata),
  ("Asia/Katmandu", asiaKathmandu),
  ("Australia/LHI", australiaLordHowe),
  ("Brazil/East", americaSaoPaulo),
  ("Canada/Newfoundland", americaStJohns),
  ("GB", europeLondon),
  ("GB-Eire", europeLondon),
  ("Japan", asiaTokyo),
  ("US/Eastern", americaNewYork),
  ("US/Pacific", americaLosAngeles)]

end PortableSearch.Calendar.ZoneTable
