/-!
# Points about which arc tangents are computed

From a sixteenth up to one there is a point close to each multiple of `1 / 256`, chosen so that its
arc tangent is very close to a double. Every number of the table is a double.
-/

namespace Toolpath

/-- A point, its arc tangent, and the coefficients of the powers of the distance from the point in
the arc tangents of the numbers about it. All of them count parts of which `2 ^ 64` make one. -/
structure ArctanNode where
  point : Int
  value : Int
  first : Int
  second : Int
  third : Int
  fourth : Int
  fifth : Int

/-- The points in order, from the sixteenth on. -/
def arctanNodes : List ArctanNode := [
  ⟨0x10400665E0244E00, 0x103A737B53DD2000, 0xFEF8FE7AE7DB9000, -0x101EB3CE2AE4C200,
    -0x534A7B7562903400, 0xFED256C83D0C500, 0x3029BE9BECB63000⟩,
  ⟨0x10FFFDB9B88CD800, 0x10F99C6364530000, 0xFEE0451EF6987800, -0x10D9DC669C1AED00,
    -0x5319A7DC4E378800, 0x10A12F29D085A700, 0x2FE1DD9FA91A4000⟩,
  ⟨0x11FFF15A73D4F100, 0x11F85F2BEE204000, 0xFEBD9A15AB698800, -0x11D2B7B69DEA4000,
    -0x52D548E48BB32400, 0x118F93522B1A0400, 0x2F7D5AACC1E0C200⟩,
  ⟨0x12FFFDB2524AA200, 0x12F716E71790A000, 0xFE98FA9DA4B52000, -0x12CAD84AAB737400,
    -0x528D2D6374BEC800, 0x127C0AD0CECC1800, 0x2F13A4BA4E87AE00⟩,
  ⟨0x13FFFE0573F3AC00, 0x13F59D1702F6A000, 0xFE726D838D661000, -0x13C20F64DB368600,
    -0x524167ACEFFA4C00, 0x136659CAF74FED00, 0x2EA4D238023F6000⟩,
  ⟨0x14FFEF894384D600, 0x14F3ED0CE204C000, 0xFE49F54752D00800, -0x14B84F7B5457C900,
    -0x51F201D007CBE400, 0x144E64B4F6720900, 0x2E30FA98A816EE00⟩,
  ⟨0x15FFF8DF40652800, 0x15F22B3C73D82000, 0xFE1F8D8FB0789800, -0x15ADB2CB7FA73B00,
    -0x519EF8AC7AD55400, 0x15343599EDC46300, 0x2DB836471EA0B200⟩,
  ⟨0x17000F8C4F0D5600, 0x16F04B495A2FA000, 0xFDF339A06E74B800, -0x16A2244D98E1AD00,
    -0x514858501937C400, 0x1617AA2BA78A6600, 0x2D3A9EA147AF5800⟩,
  ⟨0x18000FBB4057CF00, 0x17EE27BE2CD3A000, 0xFDC501CF64923000, -0x17957731D9C77300,
    -0x50EE36DB71F5C800, 0x16F88AD69547DF00, 0x2CB84DEC679D1800⟩,
  ⟨0x18FFF239CF2B7F00, 0x18EBB79F979E8000, 0xFD94EA1AA8370800, -0x18879A69B9CDB500,
    -0x5090A217FABEA400, 0x17D6BAB6191A0E00, 0x2C315F4F97176A00⟩,
  ⟨0x19FFF96E2F077200, 0x19E93AD32A948000, 0xFD62E8251F620000, -0x1978C253F6EA9700,
    -0x502F8C2270DBD800, 0x18B25C885AEB7700, 0x2BA5EEC795B9C200⟩,
  ⟨0x1B00026316B09700, 0x1AE68CCE24CC0000, 0xFD2F049C62E33000, -0x1A68C376F14E4B00,
    -0x4FCB0C5A5B35F000, 0x198B3B722A2CB400, 0x2B161920CF5AC400⟩,
  ⟨0x1C0008604F58B100, 0x1BE3A70565078000, 0xFCF942D3D13B9800, -0x1B578F3D5AC0A400,
    -0x4F632FDD9C467C00, 0x1A613DC7E31B8800, 0x2A81FBEAB28ACA00⟩,
  ⟨0x1D00026CCA4EBA00, 0x1CE07EC1298A8000, 0xFCC1A7469B625000, -0x1C45135BCAC5FE00,
    -0x4EF8062D48DBC400, 0x1B34472E99197000, 0x29E9B5715B66E600⟩,
  ⟨0x1DFFF4B2B47FCA00, 0x1DDD164A051D8000, 0xFC8833C6E644A800, -0x1D3149F096684400,
    -0x4E8999D13E697C00, 0x1C0446EDB7F27A00, 0x294D64B07F3D9400⟩,
  ⟨0x1F000AA9A05BE000, 0x1ED996A3BDA54000, 0xFC4CE0DC5D4BF800, -0x1E1C512287A67700,
    -0x4E17E3B704C2EC00, 0x1CD14BF306FF5000, 0x28AD294CCF4E5600⟩,
  ⟨0x1FFFFABA8F63DE00, 0x1FD5B569FE478000, 0xFC0FC2431EE3E800, -0x1F05DBD151870600,
    -0x4DA3111A1E9A7000, 0x1D9B081B3868DA00, 0x280923868B5BF800⟩,
  ⟨0x20FFF4DD995B5000, 0x20D1A01472C80000, 0xFBD0CF8FE7E35800, -0x1FEE0C861DF0DF00,
    -0x4D2B196961B03000, 0x1E618F189D637A00, 0x27617432AEF3A800⟩,
  ⟨0x22000666864E2600, 0x21CD61E407A34000, 0xFB9007F075A31800, -0x20D4E5C2B9633400,
    -0x4CB002E36DD87800, 0x1F24D8A11F5E3E00, 0x26B63CAD3D0BBA00⟩,
  ⟨0x22FFF9B438902200, 0x22C8C453D7B40000, 0xFB4D7BEAAC39B800, -0x21BA2E16672D3600,
    -0x4C31F4CEB1434400, 0x1FE4AA9BE43F0F00, 0x26079ED24A739600⟩,
  ⟨0x23FFFE7994831A00, 0x23C3F4772F1D4000, 0xFB09222EA10D4800, -0x229E075959155000,
    -0x4BB0E58B99D68C00, 0x20A1185F4D684C00, 0x2555BCF014C8CE00⟩,
  ⟨0x24FFEFB38F124400, 0x24BECC3723CC8000, 0xFAC307A970C96000, -0x238047CBBC472800,
    -0x4B2CF5AFB82AF400, 0x2159F6BC0EB83400, 0x24A0B9BFFC8A7400⟩,
  ⟨0x25FFEF43F8355400, 0x25B96B064AF88000, 0xFA7B2638CDB7D800, -0x246104C2A2810600,
    -0x4AA621FDEDCB5400, 0x220F4EF910E80400, 0x23E8B85879ADA200⟩,
  ⟨0x27000B3AF1C2BC00, 0x26B3DCD5931DC000, 0xFA317CA26760B000, -0x254041B0B70F5200,
    -0x4A1C70B92ACDA400, 0x22C11B8634CBB200, 0x232DDC26177CA000⟩,
  ⟨0x2800093E86363400, 0x27ADE6D7ACA6C000, 0xF9E61EECCDB45000, -0x261DC367BA01DA00,
    -0x49900FE120999000, 0x236F25FC26CC4C00, 0x227048DD58E88000⟩,
  ⟨0x290009C03B2B4200, 0x28A7A70DE0198000, 0xF999071CB829C800, -0x26F99E14A4F35400,
    -0x4900FCEC54757400, 0x241977C66393CC00, 0x21B02273C7E12E00⟩,
  ⟨0x29FFEF552705BA00, 0x29A0FF18B2150000, 0xF94A41A6F9470000, -0x27D3B0B68722B800,
    -0x486F57AE21168800, 0x24BFF158D5915A00, 0x20ED8D11DB2D9400⟩,
  ⟨0x2B000C6A48117C00, 0x2A9A3D8734E7C000, 0xF8F9B84D7004E000, -0x28AC39737D0AA000,
    -0x47DB00014FD4B800, 0x2562BBDEF077D200, 0x2028AD0C2A473600⟩,
  ⟨0x2BFFFE56327F0200, 0x2B93009EE7C00000, 0xF8A78D7088714800, -0x2982DD213167A400,
    -0x47443E3C16090400, 0x26018D429F512E00, 0x1F61A6D56607C000⟩,
  ⟨0x2D001088C1CDC200, 0x2C8B90094ABC4000, 0xF853AC7D1B762800, -0x2A57D3AC5F510600,
    -0x46AAF5A69D012000, 0x269C8A2CF3D60400, 0x1E989EF7C14C3D00⟩,
  ⟨0x2DFFF73D33508C00, 0x2D83A0966BFA8000, 0xF7FE31F7C77CA800, -0x2B2AD6ED45FCC600,
    -0x460F63771E377C00, 0x27337B58C0DACC00, 0x1DCDBA070D286A00⟩,
  ⟨0x2F00101FF9A92000, 0x2E7B8B6AAEB1C000, 0xF7A7022BF1032800, -0x2BFC2CFADFF37800,
    -0x45715E7EB74E1000, 0x27C68EE7CA5A6400, 0x1D011C9A65AE4B00⟩,
  ⟨0x30000C291CF38200, 0x2F730256FF194000, 0xF74E3B80B43F6800, -0x2CCB8E1C3DE6DA00,
    -0x44D12732F2F6AC00, 0x28558EB8E367D000, 0x1C32EB3E81980E00⟩,
  ⟨0x31000C1E90F82E00, 0x306A23781C6C8000, 0xF6F3D696AA994800, -0x2D990E6FCC897400,
    -0x442EB98165D55C00, 0x28E08627C4DF7C00, 0x1B634A6FB18BF400⟩,
  ⟨0x320009A6A31AEC00, 0x3160E710E9820000, 0xF697D976B339D800, -0x2E64A254DD758600,
    -0x438A29A4908CBC00, 0x29676AE779807E00, 0x1A925E8C72507F00⟩,
  ⟨0x32FFFFA5E41AB800, 0x325746A35EB24000, 0xF63A49E99224F800, -0x2F2E3F86104ABE00,
    -0x42E38B55CB4A3C00, 0x29EA3466E891FC00, 0x19C04BCFCBC62000⟩,
  ⟨0x34000B7F01E0C000, 0x334D5CDD3D12C000, 0xF5DB20F790073800, -0x2FF5F6DD2DCB8200,
    -0x423ADBB1AB591C00, 0x2A68EBEA7A174C00, 0x18ED364433C20E00⟩,
  ⟨0x34FFEFBDD951C800, 0x3442ED290AF1C000, 0xF57A79947FCC5800, -0x30BB92B029363800,
    -0x419053E4CE86AC00, 0x2AE36EC188B51E00, 0x181941BE58C30800⟩,
  ⟨0x35FFFEFBDFAAA600, 0x3538453D74D70000, 0xF518388542F08000, -0x317F4CFF3BD4C200,
    -0x40E3CD691D3A3C00, 0x2B59E061844BA400, 0x174491D062812F00⟩,
  ⟨0x36FFFCCD32654A00, 0x362D299FEDBFC000, 0xF4B478C90E9C3800, -0x3240F1C0EBB2B400,
    -0x403581499E4F1000, 0x2BCC20E70854A400, 0x166F49C5331D5A00⟩,
  ⟨0x37FFF3688EB3E600, 0x3721A2A0E7454000, 0xF44F3AB2CC189800, -0x3300839F72407A00,
    -0x3F85797DB2366E00, 0x2C3A32DA9F85F800, 0x15998C9411537E00⟩,
  ⟨0x39000EAAD1E7D800, 0x3815D89463B7C000, 0xF3E870C793854000, -0x33BE1DEA45626400,
    -0x3ED3A842F3848400, 0x2CA4266CC8DF9A00, 0x14C37CDC69909500⟩,
  ⟨0x39FFF0C034F33E00, 0x39097093B6CD4000, 0xF380450773C07000, -0x3479767480726800,
    -0x3E205FA9217C6400, 0x2D09D406FA826E00, 0x13ED3CD9EC855A00⟩,
  ⟨0x3AFFF2F77E292E00, 0x39FCBE3C0119C000, 0xF316978230AE3800, -0x3532CA2B55BC5800,
    -0x3D6B7216896D0400, 0x2D6B5F25D91AAE00, 0x1316EE60D831AE00⟩,
  ⟨0x3C00108041364000, 0x3AEFBB628B4EC000, 0xF2AB6DF0EFEF8800, -0x35EA10430D5E1E00,
    -0x3CB4F32840913A00, 0x2DC8C48A9FD65800, 0x1240B2D2945A8C00⟩,
  ⟨0x3D0001815D287800, 0x3BE2227942020000, 0xF23EEACF39845800, -0x369F112873ED3E00,
    -0x3BFD26F31BCC0000, 0x2E21EB1E4CE71200, 0x116AAB1A8A373E00⟩,
  ⟨0x3E0006DAA6500600, 0x3CD42F969CB90000, 0xF1D0F71E87B61000, -0x3751F6DC63EED000,
    -0x3B43EFCD4705C600, 0x2E76EB66D5898000, 0x1094F7A3470B0A00⟩,
  ⟨0x3EFFF491715F8600, 0x3DC5B7C2CA8AC000, 0xF161AA1F9559B800, -0x38029EB3040FAC00,
    -0x3A897E3DFD013400, 0x2EC7B8D314AC3C00, 0xFBFB853E7BC5180⟩,
  ⟨0x40000BACCD3EB800, 0x3EB6F6EF564BC000, 0xF0F0EBC52E093800, -0x38B1318AABAAE200,
    -0x39CDB36E0D9F0C00, 0x2F146A1047EC8600, 0xEEB0C85C88C7400⟩,
  ⟨0x40FFF2A2BE1BF800, 0x3FA7976A74180000, 0xF07EE7EE5D645800, -0x395D6ED8648DFE00,
    -0x3910E1ADC335A600, 0x2F5CE7A5891D2200, 0xE171302887ED800⟩,
  ⟨0x41FFF34E2612DC00, 0x4097DD5CCB528000, 0xF00B824E0BD59800, -0x3A078535FCA05000,
    -0x3852E33458306600, 0x2FA14AD2083B9E00, 0xD43E9FA4BE32980⟩,
  ⟨0x42FFFC7B4AB75C00, 0x4187B735FDD08000, 0xEF96C6D4B5BA8000, -0x3AAF658EEF103C00,
    -0x3793D50D256A0600, 0x2FE1928557F3CE00, 0xC71AF025A15DA00⟩,
  ⟨0x44000EA145736800, 0x42772409D05A8000, 0xEF20B9A44CCA8000, -0x3B550CF307DBC800,
    -0x36D3C7332E0D6C00, 0x301DC361E24DB600, 0xBA07F0BF74DD580⟩,
  ⟨0x450007CEBE731400, 0x436602DB86AE8000, 0xEEA96F0209340800, -0x3BF862D0C7651600,
    -0x3612E38AB71AB400, 0x3055DB4CE6355800, 0xAD076639DEC7800⟩,
  ⟨0x46000ED848942400, 0x445476A8799E8000, 0xEE30D97060F99000, -0x3C997D7374D6FC00,
    -0x35511D2184863800, 0x3089E91797B4BC00, 0xA01B0A872C2FF80⟩,
  ⟨0x46FFFE9A8A854C00, 0x45425B9E86370000, 0xEDB70F090C79F800, -0x3D38432C43AD4400,
    -0x348EA044C4F60800, 0x30B9EBFF17211C00, 0x93448CC19E06B00⟩,
  ⟨0x47FFF4B4D16ABC00, 0x462FCC14EFDD8000, 0xED3C0661D6594800, -0x3DD4C4554EAD5C00,
    -0x33CB668FDB2F2600, 0x30E5F10F56A85400, 0x868590AC74F4D00⟩,
  ⟨0x48FFF3C533C16800, 0x471CC9355A118000, 0xECBFC2AF9969E800, -0x3E6F0043A8AF9000,
    -0x33077DE0CB708A00, 0x310DFFF74E19B000, 0x79DFAEBAE173300⟩,
  ⟨0x49FFF82EB9BF2400, 0x48094E689F058000, 0xEC424A30C8BB7000, -0x3F06F2B81593D800,
    -0x3242F8BCC8A32A00, 0x31321FE84C8A2A00, 0x6D54739AE4B9940⟩,
  ⟨0x4B00068A5E9F7800, 0x48F55EB2E49F0000, 0xEBC39F24AC7DB000, -0x3F9C9C86AE449200,
    -0x317DE33E6AC1E600, 0x315259BEFE1CB600, 0x60E56045BCEC640⟩,
  ⟨0x4BFFF9C99D85A800, 0x49E0D6CBCDE30000, 0xEB43D89C832C3000, -0x402FE6BF68683C00,
    -0x30B869832F5AFA00, 0x316EB23D33E14E00, 0x5493E994970D940⟩,
  ⟨0x4CFFF92054EC8000, 0x4ACBD9A8BF730000, 0xEAC2E7C13FDF2000, -0x40C0E6D169A46000,
    -0x2FF27CBBF87EE400, 0x3187378A42004400, 0x4861785A3ED8B80⟩,
  ⟨0x4E000E04895E6800, 0x4BB66EBDBB078000, 0xEA40CC3979069800, -0x414FA07D3040C400,
    -0x2F2C24C43FFAF200, 0x319BF3B73B3BF800, 0x3C4F69018D0A5E0⟩,
  ⟨0x4F000CFBCE450400, 0x4CA06D19A31C0000, 0xE9BDA0C2C868D000, -0x41DBFA8FBC958000,
    -0x2E6592606650F400, 0x31ACED945CA8B000, 0x305F0BB01289620⟩,
  ⟨0x5000058FE838C400, 0x4D89E1ED59400000, 0xE939623D409ED000, -0x4265FD24EE762000,
    -0x2D9EC87B53FC7800, 0x31BA31839A666200, 0x2491A3EE1EDC0E0⟩,
  ⟨0x51000DD01C424800, 0x4E72E03C29000000, 0xE8B409DD23D35800, -0x42EDB361E2251C00,
    -0x2CD7C4B12B2D4C00, 0x31C3CB9367D83C00, 0x18E868D20FAB860⟩,
  ⟨0x5200032203C80000, 0x4F5B477BFED18000, 0xE82DAE56E2BB6000, -0x43730A874D4B0800,
    -0x2C10B07AFA4AE800, 0x31C9C60641178000, 0xD6484B1BCF3990⟩,
  ⟨0x530001365F4B2C00, 0x50432FCE8B888000, 0xE7A645DBF6A88800, -0x43F610DDD9A92400,
    -0x2B4984B557827800, 0x31CC2D901B589600, 0x207155608D2B84⟩,
  ⟨0x53FFF64E5D4E7C00, 0x512A881A9F7B0000, 0xE71DDE7A3CEEF000, -0x4476BD3448A61000,
    -0x2A825D62049BE000, 0x31CB0E3658AC1A00, -0x92ED44A8E04468⟩,
  ⟨0x54FFFFCC11C57C00, 0x521169E47CE40000, 0xE6946D22F07EC000, -0x44F51E3587C88400,
    -0x29BB31A7D3773200, 0x31C6741E302A0E00, -0x143C33D08BD25C0⟩,
  ⟨0x56000BA23A8E1800, 0x52F7C3D5D75B0000, 0xE60A00101AB04800, -0x45712AE0201C7800,
    -0x28F41D6528BF9E00, 0x31BE6BF80AC88E00, -0x1F2011B00A45CD0⟩,
  ⟨0x56FFF5C3D3564000, 0x53DD74A135EB8000, 0xE57EAF96F4C5B000, -0x45EAD28AD0BD0800,
    -0x282D4A3850B52400, 0x31B304A23AD8B400, -0x29D982EE010C0A0⟩,
  ⟨0x57FFF6DC35B94C00, 0x54C2AE38BFD40000, 0xE4F261969214E800, -0x466230D4641A0400,
    -0x2766997EE9063200, 0x31A44931A74C2600, -0x3467A95452BF3E0⟩,
  ⟨0x58FFF171CE678800, 0x55A7553C08BA0000, 0xE4652AC6E8C07800, -0x46D73875C0779000,
    -0x26A02F4F00D4B400, 0x319248AD8039F200, -0x3EC9B32840B3C20⟩,
  ⟨0x59FFF6686B1F4800, 0x568B77D400C78000, 0xE3D70677FB6F5800, -0x4749F1F230916C00,
    -0x25DA0B8D55267E00, 0x317D0FBB8B9E3E00, -0x48FEDB5650E1BC0⟩,
  ⟨0x5AFFF5BDEE4D4C00, 0x576F06D3819B0000, 0xE348022B5AC8D000, -0x47BA570B5B42A800,
    -0x25144762210DEE00, 0x3164ADBBC45AB400, -0x530669227616900⟩,
  ⟨0x5BFFEFC0AA0F9000, 0x585201A88DF70000, 0xE2B8226640BB9800, -0x4828692E40A72800,
    -0x244EEF13EBF63800, 0x3149313613D22200, -0x5CDFB04C3506680⟩,
  ⟨0x5CFFF84A3084E800, 0x5934790926520000, 0xE2276094E0698000, -0x4894320DE1C96400,
    -0x2389FFAAB7C9F800, 0x312AA66D65AC0600, -0x668A10B90F7D180⟩,
  ⟨0x5DFFEFA83371E800, 0x5A165016C3888000, 0xE195D34389960000, -0x48FDA5C9CD25F800,
    -0x22C59D9A73606E00, 0x31091FF526155E00, -0x7004F6915510480⟩,
  ⟨0x5F000FC63B6AE000, 0x5AF7B9049EFB8000, 0xE1035E00B03DE800, -0x4964DD7FB8BD0800,
    -0x2201A860EEC3C200, 0x30E4A4BBFD8AAC00, -0x794FD9E563E5CC0⟩,
  ⟨0x5FFFF507CD713000, 0x5BD85B69981E8000, 0xE0703E6EE421B800, -0x49C9B2FED36BA800,
    -0x213E77C1B628E400, 0x30BD52552B543600, -0x826A3EC3967D100⟩,
  ⟨0x61000C9B1F11AC00, 0x5CB8965AE2F80000, 0xDFDC3A66F6F9C000, -0x4A2C53425013CC00,
    -0x207BC3CFF6C3E400, 0x309327596677D200, -0x8B53B4D8EF30380⟩,
  ⟨0x62000F2A42C5E400, 0x5D982A8412888000, 0xDF477F91B717B000, -0x4A8CA466A5377C00,
    -0x1FB9CE0856A08100, 0x30663E67EE050000, -0x940BD7809846600⟩,
  ⟨0x63000FA5A4BF5400, 0x5E7727C2CB2C0000, 0xDEB20794B324A800, -0x4AEAAFF5BB0BA800,
    -0x1EF892E08E9C2D00, 0x3036A40630E7C600, -0x9C924D609089E80⟩,
  ⟨0x63FFF8D6F9717C00, 0x5F557AF7337F0000, 0xDE1BE3755E7BB800, -0x4B4670B5D3D11400,
    -0x1E382CE63F2CDB00, 0x30046C1CDFC55C00, -0xA4E6C873355A080⟩,
  ⟨0x65000AAA25D33400, 0x60335AE2BF620000, 0xDD84F2234665D000, -0x4B9FFFB2139A1800,
    -0x1D787688C659E800, 0x2FCF9985E2A8C000, -0xAD0905A0869F680⟩,
  ⟨0x66000B823BF7A800, 0x611094D215A48000, 0xDCED59F94823C000, -0x4BF74AEE07B7BC00,
    -0x1CB9A531E6839800, 0x2F984785B7623600, -0xB4F8CCC233F3C00⟩,
  ⟨0x670009D4A52DAC00, 0x61ED34A67D880000, 0xDC5516F4B678F800, -0x4C4C5A3135174800,
    -0x1BFBB7EDCE4DBA00, 0x2F5E83120FFD9200, -0xBCB5F03A0CFAA80⟩,
  ⟨0x68000BCF9243B000, 0x62C93F0869140000, 0xDBBC29DAF7BEE800, -0x4C9F323AB9C33400,
    -0x1B3EB3D49E40DA00, 0x2F225A9B27EFD400, -0xC4404CF10B03500⟩,
  ⟨0x68FFFD161186D800, 0x63A4A1DD534B0000, 0xDB22A3506D787000, -0x4CEFCF70AA68FC00,
    -0x1A82B14917D00300, 0x2EE3E2F8EACD9E00, -0xCB97C9EB806EC00⟩,
  ⟨0x6A000A1F84AAB800, 0x647F82977F400000, 0xDA886D06C1702800, -0x4D3E429DAB4C4800,
    -0x19C798DEEC35AD00, 0x2EA321141DE87C00, -0xD2BC5843977E400⟩,
  ⟨0x6B000526A1B21000, 0x6559B971145B8000, 0xD9EDA6E81FB5B000, -0x4D8A80A4707E0800,
    -0x190D9503F6DF6000, 0x2E60304A123D2400, -0xD9ADF2BBD011580⟩,
  ⟨0x6BFFFCBD330B8400, 0x6633525089950000, 0xD9524C94B9005000, -0x4DD491454FF40400,
    -0x1854A3AE3DE27E00, 0x2E1B1CFD67E66200, -0xE06C9DB56AB8700⟩,
  ⟨0x6D00030BCDC47800, 0x670C5C0737130000, 0xD8B657531BC0D800, -0x4E1C7CD996D92400,
    -0x179CC03F70FBC600, 0x2DD3F20C3BF85C00, -0xE6F866C1BFCE180⟩,
  ⟨0x6E00029DDF860000, 0x67E4C3CDD23C8000, 0xD819D87D80B15000, -0x4E6240965E32AC00,
    -0x16E6025C765AAB00, 0x2D8AC5382DACF000, -0xED5164950B75F80⟩,
  ⟨0x6EFFF421F853B400, 0x68BC82FC376C0000, 0xD77CD8E67374A000, -0x4EA5DE2DCF8F0C00,
    -0x16307709EFD1CC00, 0x2D3FA8B0811A7400, -0xF377B6972400980⟩,
  ⟨0x700003C0219E0C00, 0x6993BE3512020000, 0xD6DF41ACC85AD000, -0x4EE7649C906E1800,
    -0x157C06C20E400100, 0x2CF29F21CD915600, -0xF96B84D31851380⟩,
  ⟨0x71000618F963E000, 0x6A6A5070E86E8000, 0xD64131AF6BEE9000, -0x4F26CC301D6D4000,
    -0x14C8D7A429793C00, 0x2CA3C52B20784400, -0xFF2CFF87C5B2480⟩,
  ⟨0x71FFF1B18B0EFC00, 0x6B40316029610000, 0xD5A2B3168EC04000, -0x4F6416B2EC1BB000,
    -0x1416F7421E42DC00, 0x2C532DCAC11DFA00, -0x104BC5F14B649A00⟩,
  ⟨0x730008D2CA882400, 0x6C1597DA3CED0000, 0xD503A0F1EE4A3000, -0x4F9F578B6D9D3800,
    -0x13663EA4833FFE00, 0x2C00D389E0725600, -0x10A19E38B1020100⟩,
  ⟨0x73FFF2AB17E7E400, 0x6CEA396711730000, 0xD4643691C4E12000, -0x4FD87E0D8ACB2C00,
    -0x12B6F1C6C746A600, 0x2BACE284DA528C00, -0x10F45D4981CE7500⟩,
  ⟨0x7500103600319000, 0x6DBE6622BD960000, 0xD3C43BA4C6769000, -0x500FA3BE25D70000,
    -0x1208D4BEA81E2B00, 0x2B574A507FF49C00, -0x1144081170513000⟩,
  ⟨0x75FFFAC399140000, 0x6E91C88C93850000, 0xD323F462D6B40000, -0x5044B680FC10B400,
    -0x115C339580389C00, 0x2B003C93B3113C00, -0x1190A3EF96554F00⟩,
  ⟨0x76FFF8B7F3D3AC00, 0x6F649A7C749E8000, 0xD28338D614365000, -0x5077C96429378400,
    -0x10B0E48BD1EFA500, 0x2AA7B0E04A0DA000, -0x11DA36ADA415A600⟩,
  ⟨0x77FFF628D2EF0800, 0x7036CB13DE8B0000, 0xD1E21977B85D9800, -0x50A8DC5BB991F000,
    -0x1006FADB6270BB00, 0x2A4DBD0DE11BCC00, -0x1220C67E5061FB00⟩,
  ⟨0x78FFF74990570000, 0x71085D60A0A50000, 0xD140979C8EEE5800, -0x50D7F463B77C2800,
    -0xF5E794452C4D780, 0x29F26E99F2C2C600, -0x126459F6A1848100⟩,
  ⟨0x79FFFCDFDC99C800, 0x71D9519EA8F70000, 0xD09EB6B674359800, -0x510515D00DFA4400,
    -0xEB7649D96622280, 0x2995D40AC9E20200, -0x12A4F80C49CD6400⟩,
  ⟨0x7AFFF6846F003C00, 0x72A99A1788D98000, 0xCFFC8512E11CB000, -0x5130422991C93C00,
    -0xE11CC97C38F4100, 0x29380215F7F70A00, -0x12E2A80F0FF3FE00⟩,
  ⟨0x7BFFFCCC4DD5B400, 0x73794A74C3308000, 0xCF59F6FFCA48F800, -0x515981F9AAEAB800,
    -0xD6DA61F4554C680, 0x28D8FE4BB1FEFA00, -0x131D71A71D448D00⟩,
  ⟨0x7D0006452E15B800, 0x74485AAB06EC8000, 0xCEB7164DE218A800, -0x5180D80139FA4400,
    -0xCCAFBFDC80FC480, 0x2878DA7EB7C09400, -0x13555CCE8ABF9200⟩,
  ⟨0x7E000F345110A000, 0x7516C764FA590000, 0xCE13E92B7EFF5800, -0x51A64827DF051400,
    -0xC29D4F6A908BA00, 0x2817A6564EEA3E00, -0x138A71CFA5C5F200⟩,
  ⟨0x7F000801516F6400, 0x75E483D4DB658000, 0xCD707D574CF52800, -0x51C9D4E3759BD000,
    -0xB8A3EDAA427BA00, 0x27B575F1DF86E600, -0x13BCB93EA6B86400⟩,
  ⟨0x7FFFEF69BCAAA000, 0x76B18ED083EA8000, 0xCCCCD76A68655800, -0x51EB82FF3181C800,
    -0xAEC3E12DFBD2500, 0x275257EB333DCA00, -0x13EC3BF7F09D0800⟩,
  ⟨0x80FFFD3288C64000, 0x777E14AFDC300000, 0xCC28D766B9572800, -0x520B5E3D5E531400,
    -0xA4FB41725010580, 0x26EE444B42ADB400, -0x14190319F5806400⟩,
  ⟨0x82000CE0582AB000, 0x7849F7E8AE880000, 0xCB8498460BD2A800, -0x52296655E9FBF400,
    -0x9B4BB1324795D80, 0x268956B24AD36200, -0x14431803752DDB00⟩,
  ⟨0x82FFFE12280ED800, 0x79151E9256F30000, 0xCAE0327912DBC800, -0x52459C858FD6E000,
    -0x91B69A5BCDC4F80, 0x2623A96A616F7C00, -0x146A844D93147600⟩,
  ⟨0x83FFF432892FE000, 0x79DFA4A97EB58000, 0xCA3B92E09D875000, -0x526009BCCEAF2800,
    -0x883AD6F4A3E3580, 0x25BD3BB1ABC03600, -0x148F51CA17CA6000⟩,
  ⟨0x85001083F5612800, 0x7AA9A42090C60000, 0xC996A799CC125800, -0x5278B5C517D1D400,
    -0x7ED760015C50900, 0x25560D0BA39F0800, -0x14B18A7DBBBABE00⟩,
  ⟨0x85FFFB9BB72EA000, 0x7B72D7DE7FD58000, 0xC8F1AC770DA49000, -0x528F9D2526114C00,
    -0x758F92F9A171BC0, 0x24EE4D8963E06400, -0x14D1389E6ECC3A00⟩,
  ⟨0x86FFF0B8AF717000, 0x7C3B6E6F86EE0000, 0xC84C7ECC9DEB0000, -0x52A4CA6E13A41C00,
    -0x6C616B81F6E9780, 0x2485F1E5AF500800, -0x14EE668DDAA34000⟩,
  ⟨0x88000BF9EBBB6000, 0x7D037D8467840000, 0xC7A70FDA25E7D800, -0x52B8445B8D19F800,
    -0x634C133CDA10880, 0x241CFAE6CE115C00, -0x15091ED7B3658D00⟩,
  ⟨0x88FFF7EC63DB2800, 0x7DCAC23F48558000, 0xC7019A3B87D85000, -0x52CA09703D9E0C00,
    -0x5A52B1FFF80D900, 0x23B397CA537E9800, -0x15216C2C73E5F000⟩,
  ⟨0x8A00057D1F738800, 0x7E917B8CC9358000, 0xC65BECFFB426F800, -0x52DA245EB74D3400,
    -0x51728D9C9DB9C00, 0x2349B343F7E76200, -0x1537595FBA237400⟩,
  ⟨0x8AFFFB999B0C3800, 0x7F577CF792340000, 0xC5B63065F1AA3000, -0x52E8966CA46F2C00,
    -0x48ADBD7EDC4B300, 0x22DF70ABC5161600, -0x154AF1633F423C00⟩,
  ⟨0x8BFFFB6223DC1000, 0x801CE01047660000, 0xC51052478AC93000, -0x52F56696022B0C00,
    -0x4003357BBDBCA80, 0x2274CDD7CA954E00, -0x155C3F45420CE400⟩,
  ⟨0x8CFFFD74995B0800, 0x80E19F0048DE0000, 0xC46A5AAB32700000, -0x5300995E7D6AEC00,
    -0x37734D0F2F86540, 0x2209D92BA9EC9C00, -0x156B4E2BBC325E00⟩,
  ⟨0x8DFFFDD095728000, 0x81A5B69D5D010000, 0xC3C44F5EE6782000, -0x530A339B518F0400,
    -0x2EFE3966C423F80, 0x219E9F721623CE00, -0x15782952DCBE1A00⟩,
  ⟨0x8F000A5A2CF20800, 0x8269316E02C00000, 0xC31E2A8B12DB5000, -0x53123ABFF74E6400,
    -0x26A396C060B3940, 0x213325BCCBA1B200, -0x1582DC087BB36700⟩,
  ⟨0x9000019183799800, 0x832BF5D7DB670000, 0xC278050F17761800, -0x5318B2DE7B231800,
    -0x1E6488D95DE8D10, 0x20C784CC3BE48200, -0x158B71AAA63BAD00⟩,
  ⟨0x9100069852436000, 0x83EE1E90B2840000, 0xC1D1CB359F2DF800, -0x531DA1F78137B800,
    -0x163FF7800F052F0, 0x205BB851E6BDBA00, -0x1591F5A351CF9100⟩,
  ⟨0x91FFF10AF01FE000, 0x84AF8CF9C0500000, 0xC12B9A45F2F9F800, -0x53210C6DE4FDDC00,
    -0xE3731B12CC9DC0, 0x1FEFDB8C5E4B3B00, -0x15967366FE9CA700⟩,
  ⟨0x930003419EB2E800, 0x85707324B5460000, 0xC0854A2DA2551800, -0x5322F8156D01E800,
    -0x64829EBA0FC290, 0x1F83DC860A6A5E00, -0x1598F670D98EE700⟩,
  ⟨0x940007416A6A8000, 0x8630A84AFA980000, 0xBFDF00F499BDB800, -0x5323695CF1BDA800,
    0x18B6C7C50F565D, 0x1F17DBC9C4B6CA00, -0x15998A45D6DAE000⟩,
  ⟨0x94FFF901DB505800, 0x86F0298429390000, 0xBF38C429029C6800, -0x5322659A31A58C00,
    0x943765F6545580, 0x1EABE49B6AC5BD00, -0x15983A575A968400⟩,
  ⟨0x96000F48D4EC9800, 0x87AF1FBC0BD10000, 0xBE92731D22ECB800, -0x531FF17E0F11B400,
    0x10E1995D9C800A0, 0x1E3FE93721A8E000, -0x159512377DA84000⟩,
  ⟨0x96FFFE37DA4A4000, 0x886D52671B020000, 0xBDEC41F1C808F800, -0x531C12D7AB847C00,
    0x186398192C622B0, 0x1DD412B62BA35700, -0x15901D5F0E020E00⟩,
  ⟨0x97FFF9CE5A776800, 0x892AE84B856B0000, 0xBD4611B2DBD4D800, -0x5316CE2497D4C800,
    0x1FCB03785E30700, 0x1D68540EEDF3B300, -0x158967479C252A00⟩,
  ⟨0x98FFF001718E5800, 0x89E7D40FE9BC0000, 0xBC9FF0DDF4B33800, -0x531028C11BD31C00,
    0x27175D1EBCD7E20, 0x1CFCBD83775C9800, -0x1580FB62E887AB00⟩,
  ⟨0x9A00076E3DFFE800, 0x8AA4322682900000, 0xBBF9C92250ED2800, -0x5308267EDD930400,
    0x2E49C50A3617CA0, 0x1C9147507C76E000, -0x1576E519C7F0AB00⟩,
  ⟨0x9B000E7021418000, 0x8B5FDE0B2B570000, 0xBB53BD69D95BB800, -0x52FECDD2AB0A5800,
    0x3560E00B6453840, 0x1C260E87DCA54B00, -0x156B2FC90DF76300⟩,
  ⟨0x9BFFF44DC7E2A000, 0x8C1ACBBE85D40000, 0xBAADDB306551E800, -0x52F424C22EE5D400,
    0x3C5C4DFC1424800, 0x1BBB2218790F2600, -0x155DE6C094F3DA00⟩,
  ⟨0x9D000CDA6D421000, 0x8CD53880668A0000, 0xBA07EEC00FC44800, -0x52E82CB0CB195800,
    0x433E663B2912880, 0x1B5066C986344300, -0x154F15406672B500⟩,
  ⟨0x9E0006735B1F4000, 0x8D8EE8E858570000, 0xB9622F9433873000, -0x52DAEE4908B8B800,
    0x4A0506834C85180, 0x1AE6063745232100, -0x153EC677D91F5600⟩,
  ⟨0x9EFFF88A51303800, 0x8E47EE37FB790000, 0xB8BC9103423D3800, -0x52CC6D9A6F4C1800,
    0x50B0E813FF4A280, 0x1A7BFDE7FC082500, -0x152D0582F471BA00⟩,
  ⟨0x9FFFFE0ED4DBE800, 0x8F005BF974420000, 0xB8170421B8899800, -0x52BCAE004BEF9000,
    0x5742D2FF11FD2C0, 0x1A1249D80AB6C500, -0x1519DD69A4108D00⟩,
  ⟨0xA0FFF708ECE19800, 0x8FB81B3E1F610000, 0xB771A01353B50000, -0x52ABB659452C4800,
    0x5DBA0C1EE8A4140, 0x19A8FE261A122100, -0x1505591D552BA000⟩,
  ⟨0xA1FFFFD0BA33B000, 0x906F407D7FC30000, 0xB6CC54F5368B1000, -0x529989AE49ECEC00,
    0x641763E12B6EC00, 0x194015DD484DB500, -0x14EF83783EEF4400⟩,
  ⟨0xA2FFF86A2BFD2000, 0x9125B4FB3A980000, 0xB62739D0499A8800, -0x52862F2FCAFFE000,
    0x6A5A2A12EE30580, 0x18D7A493FBB97500, -0x14D8673B37E4FB00⟩,
  ⟨0xA3FFF47C8872B800, 0x91DB86EC95C20000, 0xB582444D821AC800, -0x5271AA5D2C1FFC00,
    0x7082F897C809440, 0x186FA882E9673D00, -0x14C00F0D12F55000⟩,
  ⟨0xA5000B991FE35800, 0x9290C71A71A10000, 0xB4DD6793BFF13800, -0x525BFDFE15AAE800,
    0x76927A64A054300, 0x18081E3EB66A2600, -0x14A68578AB06C500⟩,
  ⟨0xA600058DF8280000, 0x93454DEC59640000, 0xB438CA155DEA1000, -0x524533B1D3992800,
    0x7C877B430FBBB00, 0x17A1225B30AA0500, -0x148BD4EC53EF4300⟩,
  ⟨0xA70008E83903D800, 0x93F936D327BD0000, 0xB394553E7DF59000, -0x522D4CFF2EC91C00,
    0x82630539AA52080, 0x173AAAEFF6F27A00, -0x147007B81A6BB200⟩,
  ⟨0xA7FFF2F9B75A3000, 0x94AC69AEEE8C0000, 0xB2F02183DB579800, -0x5214520A2EDB9800,
    0x88247244C9F6C80, 0x16D4CB468D7C5900, -0x1453280D48498900⟩,
  ⟨0xA9000957EFBAC800, 0x955F1758E1940000, 0xB24C046E2ED56800, -0x51FA40B0478EDC00,
    0x8DCD74470D9A180, 0x166F6CFF4501BF00, -0x14353FFCD6B8DE00⟩,
  ⟨0xAA000EFED9211800, 0x9611155820160000, 0xB1A8273F32BFD800, -0x51DF23BB94FEA400,
    0x935CD34B66C2280, 0x160AAD6A3AA6EF00, -0x1416597704E1F400⟩,
  ⟨0xAAFFF396953A7800, 0x96C258B5F3920000, 0xB1049672A576F000, -0x51C301EDD9055800,
    0x98D2626CD5F7380, 0x15A697A899A63D00, -0x13F67E49FA7FB100⟩,
  ⟨0xAC0007738B619800, 0x9773194279FF0000, 0xB06120C0E2B90000, -0x51A5D70E0EC30400,
    0x9E2FFE2050D2D00, 0x1543110B7B3B7200, -0x13D5B82170040100⟩,
  ⟨0xACFFFCC12E695000, 0x9823216F7E7A0000, 0xAFBDF9E0A518B800, -0x5187B089E9337800,
    0xA3742B6D46C1B80, 0x14E03C6162F4C800, -0x13B410857F597600⟩,
  ⟨0xADFFEFF152166800, 0x98D28528886E0000, 0xAF1B119E78934000, -0x51688FDA2DF6F000,
    0xA89FAEF20787480, 0x147E12DE05901E00, -0x139190DA5CABB500⟩,
  ⟨0xAF0002B9983CC800, 0x99815BA929A40000, 0xAE785480ED22D000, -0x514875549D533C00,
    0xADB35DDF8005D80, 0x141C8BD2BAF7B200, -0x136E425F53241A00⟩,
  ⟨0xB0000A6B02AED000, 0x9A2F87F976D30000, 0xADD5DF9752C80000, -0x51276AC8021D5000,
    0xB2AE88C7AB7DD80, 0x13BBBB89A0C1B200, -0x134A2E2E8D60FC00⟩,
  ⟨0xB1000961C04E5800, 0x9ADD0C096A820000, 0xAD33B338F24F4800, -0x5105748C39885800,
    0xB7916B582E3FB80, 0x135BA4CFE6B72B00, -0x13255D3C3BFA3B00⟩,
  ⟨0xB200043DA3F66000, 0x9B89EB4B8AAC0000, 0xAC91CE47D8734800, -0x50E29696F47DB800,
    0xBC5C4BFCD89E780, 0x12FC4974F57C8F00, -0x12FFD8566CAACA00⟩,
  ⟨0xB300053A31CBF800, 0x9C362CECB44A0000, 0xABF02C1839E2C000, -0x50BED3F8F4020C00,
    0xC10F8A5CF0F7580, 0x129DA91952EE8200, -0x12D9A8245866A800⟩,
  ⟨0xB4000727184A5800, 0x9CE1CDAFF1C80000, 0xAB4ED1B6E898F000, -0x509A31D1DE3F8000,
    0xC5AB3CD58188780, 0x123FC8F2E4320500, -0x12B2D52648357300⟩,
  ⟨0xB5000F171BBC3800, 0x9D8CD13EA9310000, 0xAAADBDAEC32E6800, -0x5074B3C580334C00,
    0xCA2FAA5BCF42C80, 0x11E2AA46A0B02D00, -0x128B67B508A35B00⟩,
  ⟨0xB5FFF06FA5DFD800, 0x9E371A3795B70000, 0xAA0D0DB2C57DF000, -0x504E64E23684DC00,
    0xCE9C3F2D9E15D00, 0x118660173397F900, -0x12636801DB494500⟩,
  ⟨0xB6FFFF5203675000, 0x9EE0E0DD9EA00000, 0xA96C8E99FFF47000, -0x50273CDAF3FFA400,
    0xD2F2A0BA202D780, 0x112ACEDC04180600, -0x123ADE160D655700⟩,
  ⟨0xB80007680F532800, 0x9F8A02A728A00000, 0xA8CC62E45C88C800, -0x4FFF47CBA93FDC00,
    0xD7321984640E680, 0x10D00C1960AAF700, -0x1211D1D2F50D2500⟩,
  ⟨0xB9001006A8AF5800, 0xA03284C1DD9F0000, 0xA82C8790BAE38800, -0x4FD688D86EC57000,
    0xDB5AFCDA9B57E00, 0x107617A731624D00, -0x11E84AF1A8C05400⟩,
  ⟨0xBA0008991EF36800, 0xA0DA5CA41F390000, 0xA78D08813DD00800, -0x4FAD06EE5E323C00,
    0xDF6D3BBB2B13500, 0x101CF997F58C8A00, -0x11BE510307434800⟩,
  ⟨0xBAFFF92E55A65000, 0xA18190000EAE0000, 0xA6EDE22B9FDB6000, -0x4F82C507C874A800,
    0xE3692E8DED00780, 0xFC4B12C9AF73400, -0x1193EB6F8E068900⟩,
  ⟨0xBBFFF48490FBB000, 0xA2282B6635780000, 0xA64F0A67FDED7000, -0x4F57C42C91FB1000,
    0xE74F54A1FA28B00, 0xF6D39F925457880, -0x116921776AAC4200⟩,
  ⟨0xBCFFF23D97C1D800, 0xA2CE29AE0CF90000, 0xA5B087E47905E800, -0x4F2C09CF7CA83400,
    0xEB1FC11E2EB6F00, 0xF1698CE288B5580, -0x113DFA326E297200⟩,
  ⟨0xBDFFF978F3CD4800, 0xA3738FC26FAE0000, 0xA51257AC358DE800, -0x4EFF98BBE0796C00,
    0xEEDAC39C44B7800, 0xEC0CD128AEF3C00, -0x11127C9026FDD000⟩,
  ⟨0xBF000CB9E4682800, 0xA4185F87DCAC0000, 0xA47479A335847000, -0x4ED274714E806800,
    0xF280992881F7680, 0xE6BD7A9487A5780, -0x10E6AF57EF003B00⟩,
  ⟨0xBFFFFB4F7E049000, 0xA4BC7A18E1C00000, 0xA3D70D1F08325000, -0x4EA4A999B1431000,
    0xF610CA04C525F00, 0xE17CA17772BF000, -0x10BA99290D573000⟩,
  ⟨0xC1000E295A919000, 0xA5600E95C19A0000, 0xA339E698DBE7A800, -0x4E762F19F417C000,
    0xF98C91540DAEA80, 0xDC48DC551074800, -0x108E407ADCEFD600⟩,
  ⟨0xC20005EA6A71F800, 0xA602F4D8EDE30000, 0xA29D2E46B14FB800, -0x4E47144FA7BD1C00,
    0xFCF348B9C1EB580, 0xD723893C710DC80, -0x1061AB9CF54D1000⟩,
  ⟨0xC3000C6434E5E800, 0xA6A547E9142D0000, 0xA200CBCDC1238800, -0x4E175570F8A4A400,
    0x10045B7B2C8FF200, 0xD20BE1CEBE52780, -0x1034E0B767B7D400⟩,
  ⟨0xC3FFF5AED9B88000, 0xA746EC5C9DE50000, 0xA164DB363735F800, -0x4DE6FE8CBB8A8400,
    0x1038386187FE0F00, 0xCD02D459D059980, -0x1007E5CAEE03A900⟩,
  ⟨0xC5000431E3BF1800, 0xA7E80C7E68F40000, 0xA0C935454049F800, -0x4DB606D7B8D13400,
    0x106ADC2841F29200, 0xC807212422B0580, -0xFDAC0B13C978500⟩,
  ⟨0xC5FFF876CC157800, 0xA88880B714560000, 0xA02E01C488977000, -0x4D847E274E371C00,
    0x109C3DB450B9F700, 0xC31A11896862500, -0xFAD771D36500900⟩,
  ⟨0xC70000161D757000, 0xA928660558520000, 0x9F932632AC9E2800, -0x4D525F60AFA40000,
    0x10CC6968546D3900, 0xBE3ACEDC24CFE80, -0xF800E9B51919B80⟩,
  ⟨0xC8000765FD4BD800, 0xA9C7B0746A770000, 0x9EF8AFA08C999800, -0x4D1FB1F48527D000,
    0x10FB5EFA921D3C00, 0xB969C34B49F4480, -0xF528C91D07AF980⟩,
  ⟨0xC8FFFE928E00E000, 0xAA66569F9DE90000, 0x9E5EA8AAA6E8A800, -0x4CEC7CAF25091400,
    0x11291F2FC4C3F600, 0xB4A740DBD3B2E00, -0xF24F64137437B00⟩,
  ⟨0xCA000EC857A73000, 0xAB04726A76320000, 0x9DC4F9A22F7B9000, -0x4CB8BADEEF5E6800,
    0x1155B4E401D07100, 0xAFF289D12B78E00, -0xEF750C487FB3100⟩,
  ⟨0xCB000827EB60B800, 0xABA1E6AB39E10000, 0x9D2BC04F5E371000, -0x4C8479B6940E7000,
    0x11811B4E62286B00, 0xAB4C838DF674E80, -0xEC9A111C88B2080⟩,
  ⟨0xCC0001690A5C1000, 0xAC3EC1D86B090000, 0x9C92F00F5561F000, -0x4C4FB82109541000,
    0x11AB5A02BDB57100, 0xA6B4C4F5EB85C00, -0xE9BEBFA414B2D00⟩,
  ⟨0xCCFFEF5CC0328800, 0xACDAFD8B5D3D0000, 0x9BFA90858D5BD000, -0x4C1A7BE64F59D800,
    0x11D472CDED25A800, 0xA22B816855ECD00, -0xE6E362B110D5080⟩,
  ⟨0xCDFFFF2A82029800, 0xAD76B5AAEF350000, 0x9B6287D48E28F000, -0x4BE4BEF8C4795800,
    0x11FC705BE3AF0500, 0x9DAFED66AE6E380, -0xE40842D6DDCDC00⟩,
  ⟨0xCF000B730511A000, 0xAE11D3CD66A40000, 0x9ACAED2FD5975000, -0x4BAE8C777B3BA800,
    0x1223503573651800, 0x9942B117CFE9400, -0xE12DA6745912C80⟩,
  ⟨0xCFFFFDB42BA0D800, 0xAEAC4AD6A0230000, 0x9A33CEC195C69800, -0x4B77EC8C3B690400,
    0x124912B23C0BA200, 0x94E42A627436D00, -0xDE53D1B80152A80⟩,
  ⟨0xD1000CEACDCA1800, 0xAF463C60C3F50000, 0x999D0CF6F10C1800, -0x4B40D6C010DDE400,
    0x126DC37AB9110C00, 0x909364ACE7E0700, -0xDB7B06AAB119F00⟩,
  ⟨0xD1FFFDF4F0A9F800, 0xAFDF854E04570000, 0x9906CB7BC30D5000, -0x4B095B08803C6000,
    0x12915DA679529300, 0x8C51592B547EF00, -0xD8A38533D274480⟩,
  ⟨0xD2FFF3D11D0E7000, 0xB0783B1900300000, 0x9870F689E9CAF000, -0x4AD1751100E4C800,
    0x12B3E9C967F01300, 0x881D69AE8015C00, -0xD5CD8B24B547880⟩,
  ⟨0xD4000ABF9285C000, 0xB1106EEB229D0000, 0x97DB7E7FFE60F000, -0x4A9921BE360A4400,
    0x12D56F03654CC300, 0x83F71A5DB73D300, -0xD2F9543CC978180⟩,
  ⟨0xD50006EC1CEA4800, 0xB1A7FDA0964D0000, 0x97468716ACF00800, -0x4A6071519F3F7400,
    0x12F5E8FF1FADB500, 0x7FDF5A8EEA00F00, -0xD0271A357C6DB80⟩,
  ⟨0xD60003B86F910000, 0xB23EF7F7B8010000, 0x96B2011057FBF800, -0x4A2760DBE79D3C00,
    0x13155EE509140A00, 0x7BD5AD86AC2DFC0, -0xCD5714C671C8F80⟩,
  ⟨0xD7000892DDF24000, 0xB2D562BD12690000, 0x961DE8DFD9AAC800, -0x49EDF1B779577400,
    0x1333D515C4C27000, 0x77D9EA6EB13B3C0, -0xCA8979B1D4B9580⟩,
  ⟨0xD7FFF3E190C1C800, 0xB36B2AB4DC1E0000, 0x958A529FDFC6C800, -0x49B42E73E80F3800,
    0x13514B2CAA2E0C00, 0x73EC89165EFA680, -0xC7BE7CC88801100⟩,
  ⟨0xD8FFF3AA43492000, 0xB4006B4677DA0000, 0x94F724735540A000, -0x497A0FA2BE9FAC00,
    0x136DC9FB0E8AC800, 0x700CC6B5759B280, -0xC4F64FF6D8F4580⟩,
  ⟨0xDA000AFDC6F5C000, 0xB4952689BE280000, 0x94645D5FFB347000, -0x493F97639C782800,
    0x1389551297317A00, 0x6C3A8C761119540, -0xC2312348A033E80⟩,
  ⟨0xDB0001C3613DC800, 0xB5293C66FB7E0000, 0x93D21E2BAC6DC000, -0x4904D5672B738000,
    0x13A3E9EE34AE9100, 0x6876A0717FFC140, -0xBF6F24F64556300⟩,
  ⟨0xDC00068F7EED9800, 0xB5BCC85665B30000, 0x93404CCC1D559000, -0x48C9C1D811F82000,
    0x13BD90F132139B00, 0x64C041637ACF840, -0xBCB08168CA67480⟩,
  ⟨0xDCFFF21662023800, 0xB64FB43222F30000, 0x92AF0034FC38F800, -0x488E68951858E400,
    0x13D649A926C12700, 0x6117EF16887DC00, -0xB9F56347105F300⟩,
  ⟨0xDE000CA8D7556800, 0xB6E229E2722D0000, 0x921E0FFB2B9D8000, -0x4852BB8E3E9F9C00,
    0x13EE1E5EA1330F00, 0x5D7C90AF339B7C0, -0xB73DF379C816280⟩,
  ⟨0xDEFFF330B7F08800, 0xB773F138837F0000, 0x918DB4BDAC3F8000, -0x4816D4903FBCC800,
    0x14050944EB818C00, 0x59EF78420583E40, -0xB48A5938E8C5680⟩,
  ⟨0xDFFFFAA288E39000, 0xB8053B21DDDA0000, 0x90FDBF0C11E45800, -0x47DAA26A153DE800,
    0x141B1571F0483700, 0x566F62EF443DF00, -0xB1DABA0F81B8880⟩,
  ⟨0xE1000629BAC9F000, 0xB895F79B6B200000, 0x906E3FBAA596A800, -0x479E2E74936FB400,
    0x14304394F485E000, 0x52FCA448A9A2100, -0xAF2F39E95527480⟩,
  ⟨0xE20006EE9AB8C800, 0xB9261EBFD1800000, 0x8FDF3F95458DF800, -0x47617EC97777D800,
    0x144495D2E3B20F00, 0x4F9759FF306CC00, -0xAC87FB168680780⟩,
  ⟨0xE30002011BADB000, 0xB9B5B3EFF9B90000, 0x8F50BC36491C3800, -0x472494C777F16000,
    0x14580FF8B6CBC200, 0x4C3F5C033A66380, -0xA9E51E594CF2F80⟩,
  ⟨0xE3FFF8CC827F2000, 0xBA44B879CAC30000, 0x8EC2B5412DD19800, -0x46E7729D783F1400,
    0x146AB579F8FD7D00, 0x48F48E96A42BF80, -0xA746C2E97ABA580⟩,
  ⟨0xE4FFF7CF1204E800, 0xBAD333CF3F8E0000, 0x8E35243A06974800, -0x46AA17C660E4B000,
    0x147C8A808C583A00, 0x45B6B215FC94980, -0xA4AD06823BABB00⟩,
  ⟨0xE6000F01C77B9000, 0xBB612F340A8A0000, 0x8DA800CDED6FC000, -0x466C82D291A6B800,
    0x148D9342387EA200, 0x42857DCC16EBD40, -0xA21805657270B80⟩,
  ⟨0xE6FFF75B901BF800, 0xBBEE83D3D2550000, 0x8D1B7278FB381000, -0x462EC74264B3E000,
    0x149DCE5AA4990D00, 0x3F61BAC6EB2CCA0, -0x9F87DA697860780⟩,
  ⟨0xE7FFFF5241CF6800, 0xBC7B5D8B84460000, 0x8C8F4E7990917800, -0x45F0D4881002B000,
    0x14AD440A15964100, 0x3C4A59011299520, -0x9CFC9EFC4E13280⟩,
  ⟨0xE8FFEF61F6459000, 0xBD079E4636440000, 0x8C03B394F80EB000, -0x45B2BA6145550000,
    0x14BBF41B0933FF00, 0x393FEBC134C19A0, -0x9A766B3152B8200⟩,
  ⟨0xE9FFFB84276EA000, 0xBD9362F817910000, 0x8B7885CCB9903000, -0x45746E7878295000,
    0x14C9E4AC2C9A3000, 0x3641BBDF9CED980, -0x97F555C445E1B80⟩,
  ⟨0xEAFFF46B9473E000, 0xBE1E92446BF40000, 0x8AEDDF31152D3800, -0x4535FE8C173AC800,
    0x14D716417BF1C700, 0x33503DC33FC4720, -0x95797426ED68380⟩,
  ⟨0xEBFFFB8551D81800, 0xBEA93ED91CAC0000, 0x8A63ADF27F500800, -0x44F764AB5C1AA800,
    0x14E38DB49D32AA00, 0x306AF46FBE56DA0, -0x9302DA83E6BBD80⟩,
  ⟨0xECFFF8A1A7DD1800, 0xBF335C1645390000, 0x89D9FF6CDBFF6800, -0x44B8A8EB27591800,
    0x14EF4CE7B01CF500, 0x2D920BA4BFAA5A0, -0x90919BCC3337780⟩,
  ⟨0xEDFFF54646F46000, 0xBFBCEFA505290000, 0x8950CEBFE108C800, -0x4479CB1AF8677C00,
    0x14FA57634E1B9100, 0x2AC54C8FF2DBEA0, -0x8E25C9B9D7ACC80⟩,
  ⟨0xEF000132B9EFA800, 0xC046026DE5CB0000, 0x88C813C81F25C800, -0x443AC9737FB41800,
    0x1504B0CCA681FA00, 0x280470DE79BC120, -0x8BBF74DD47D3500⟩,
  ⟨0xEFFFF1A804DB3000, 0xC0CE7E165A9A0000, 0x883FE58E4A15A800, -0x43FBB08C35F64800,
    0x150E5A75C5B4F100, 0x254FD1C78273B00, -0x895EAC9FD321580⟩,
  ⟨0xF10002496A634000, 0xC15682E65C340000, 0x87B8249472AEF800, -0x43BC73B82C1C8400,
    0x151759937BFB7400, 0x22A6B25793FBB60, -0x87037F50E8C1200⟩,
  ⟨0xF20004A095DB2800, 0xC1DDF8A000D30000, 0x8730E9BFA42ED000, -0x437D206CAF4DF400,
    0x151FAF64024D1400, 0x20097337092D300, -0x84ADFA285121A00⟩,
  ⟨0xF2FFFA3AC7797800, 0xC264E0A98E0C0000, 0x86AA345BFF673800, -0x433DB8416FF87800,
    0x15275EF9C5E03A00, 0x1D77F217AA11370, -0x825E2953448F080⟩,
  ⟨0xF40001C07C0CF800, 0xC2EB4BA666030000, 0x8623F478ED2DA800, -0x42FE358AB5C03C00,
    0x152E6C1F3FBC2B00, 0x1AF1C3EE24AD7D0, -0x801417F67136480⟩,
  ⟨0xF5000536C65BD800, 0xC3712E8071D30000, 0x859E35D18A6B1000, -0x42BE9F9F2CB61000,
    0x1534D908E9071F00, 0x1877044CE5E5C90, -0x7DCFD03ADF27540⟩,
  ⟨0xF60002D09DD30000, 0xC3F688CD8B1F0000, 0x8518F975DBD6B800, -0x427EF8CE8FF38400,
    0x153AA889D9AF5D00, 0x160799F7F7040B0, -0x7B915B4FC2CFEC0⟩,
  ⟨0xF6FFFAC7C6E8C000, 0xC47B5B340E540000, 0x84943F621B059800, -0x423F42DF381F9400,
    0x153FDD7BDEDD3F00, 0x13A36670C52E660, -0x7958C17729CC540⟩,
  ⟨0xF7FFFDF019A00000, 0xC4FFAEEA6BCB0000, 0x840FFEFFF0ADE800, -0x41FF7B6B95B03C00,
    0x15447AF84D6F5D00, 0x114A247982941E0, -0x77260A079A20D40⟩,
  ⟨0xF9000F35A892E800, 0xC58385DF440B0000, 0x838C36FB89171000, -0x41BFA37A414C9400,
    0x154883B5DEEC7A00, 0xEFBB15A50C36A8, -0x74F93B7883D2540⟩,
  ⟨0xF9FFEFBB8706D800, 0xC606C04F4B1C0000, 0x830907AD2BB54800, -0x417FCC74A44BFC00,
    0x154BF98CD1001F00, 0xCB87E37486E0B0, -0x72D25B63AD61F80⟩,
  ⟨0xFAFFF270B6D19800, 0xC689894DE66E0000, 0x82864699DD274800, -0x413FE35D320F4800,
    0x154EE0592BB25200, 0xA7FB0B8C9F75A8, -0x70B16E9166B2180⟩,
  ⟨0xFC00022BB7F97000, 0xC70BD667221D0000, 0x8203FEC54BDB6000, -0x40FFEF246CF95400,
    0x15513A5F3357F700, 0x8515D0A6495A98, -0x6E9678F9C37DC40⟩,
  ⟨0xFCFFF9CDB5198000, 0xC78D953FA8AD0000, 0x81824318320AC000, -0x40BFFAB2EAB6A000,
    0x155309F27448C000, 0x62DB59214001AC, -0x6C817DD08C8F7C0⟩,
  ⟨0xFE000D53B605C800, 0xC80EE0AEB36C0000, 0x8100F946CDA55000, -0x407FFAA63530E000,
    0x155452089780F800, 0x4142D5FCD716EC, -0x6A727F86491EBC0⟩,
  ⟨0xFEFFF1CD2C965000, 0xC88F936C453C0000, 0x808047206329C000, -0x4040034C5A237800,
    0x155514E32F181600, 0x20542A9C2C51A4, -0x68697FD3EBD6800⟩,
  ⟨0xFFC00C74968D8000, 0xC8EFDCDDA5F80000, 0x801FFDC4262D4800, -0x400FFCE1DAA55000,
    0x1555515539DDFB00, 0x803F3BDCAF361, -0x66E69C628EE9600⟩]

end Toolpath
