import RestDispatch.Unicode.Table

/-!
# Break properties

The three properties that text segmentation is built on: the grapheme cluster
break, the word break and the sentence break of every code point, in version
16.0 of the character database, the version patterns follow. Each is a run map
of long value names; a code point of no run value has the value `Other`, which
the data files do not list.

`BreakProperty.valueNames` gives each value's long name with its short names.
-/

namespace RestDispatch.Unicode

set_option autoImplicit false

/-- The grapheme cluster break of every code point. -/
def graphemeClusterBreakText : String :=
  "0:Control a:LF b:Control d:CR e:Control 20: 7f:Control a0: ad:Control ae: 300:Extend 370: 483:Extend 48a: 591:Extend 5be: 5bf:Extend 5c0: 5c1:Extend 5c3: 5c4:Extend 5c6: 5c7:Extend 5c8: 600:Prepend 606: 610:Extend 61b: 61c:Control 61d: 64b:Extend 660: 670:Extend 671: 6d6:Extend 6dd:Prepend 6de: 6df:Extend 6e5: 6e7:Extend 6e9: 6ea:Extend 6ee: 70f:Prepend 710: 711:Extend 712: 730:Extend 74b: 7a6:Extend 7b1: 7eb:Extend 7f4: 7fd:Extend 7fe: 816:Extend 81a: 81b:Extend 824: 825:Extend 828: 829:Extend 82e: 859:Extend 85c: 890:Prepend 892: 897:Extend 8a0: 8ca:Extend 8e2:Prepend 8e3:Extend 903:SpacingMark 904: 93a:Extend 93b:SpacingMark 93c:Extend 93d: 93e:SpacingMark 941:Extend 949:SpacingMark 94d:Extend 94e:SpacingMark 950: 951:Extend 958: 962:Extend 964: 981:Extend 982:SpacingMark 984: 9bc:Extend 9bd: 9be:Extend 9bf:SpacingMark 9c1:Extend 9c5: 9c7:SpacingMark 9c9: 9cb:SpacingMark 9cd:Extend 9ce: 9d7:Extend 9d8: 9e2:Extend 9e4: 9fe:Extend 9ff: a01:Extend a03:SpacingMark a04: a3c:Extend a3d: " ++
  "a3e:SpacingMark a41:Extend a43: a47:Extend a49: a4b:Extend a4e: a51:Extend a52: a70:Extend a72: a75:Extend a76: a81:Extend a83:SpacingMark a84: abc:Extend abd: abe:SpacingMark ac1:Extend ac6: ac7:Extend ac9:SpacingMark aca: acb:SpacingMark acd:Extend ace: ae2:Extend ae4: afa:Extend b00: b01:Extend b02:SpacingMark b04: b3c:Extend b3d: b3e:Extend b40:SpacingMark b41:Extend b45: b47:SpacingMark b49: b4b:SpacingMark b4d:Extend b4e: b55:Extend b58: b62:Extend b64: b82:Extend b83: bbe:Extend bbf:SpacingMark bc0:Extend bc1:SpacingMark bc3: bc6:SpacingMark bc9: bca:SpacingMark bcd:Extend bce: bd7:Extend bd8: c00:Extend c01:SpacingMark c04:Extend c05: c3c:Extend c3d: c3e:Extend c41:SpacingMark c45: c46:Extend c49: c4a:Extend c4e: c55:Extend c57: c62:Extend c64: c81:Extend c82:SpacingMark c84: cbc:Extend cbd: cbe:SpacingMark cbf:Extend cc1:SpacingMark cc2:Extend cc3:SpacingMark cc5: cc6:Extend cc9: cca:Extend cce: cd5:Extend cd7: ce2:Extend ce4: cf3:SpacingMark cf4: d00:Extend d02:SpacingMark " ++
  "d04: d3b:Extend d3d: d3e:Extend d3f:SpacingMark d41:Extend d45: d46:SpacingMark d49: d4a:SpacingMark d4d:Extend d4e:Prepend d4f: d57:Extend d58: d62:Extend d64: d81:Extend d82:SpacingMark d84: dca:Extend dcb: dcf:Extend dd0:SpacingMark dd2:Extend dd5: dd6:Extend dd7: dd8:SpacingMark ddf:Extend de0: df2:SpacingMark df4: e31:Extend e32: e33:SpacingMark e34:Extend e3b: e47:Extend e4f: eb1:Extend eb2: eb3:SpacingMark eb4:Extend ebd: ec8:Extend ecf: f18:Extend f1a: f35:Extend f36: f37:Extend f38: f39:Extend f3a: f3e:SpacingMark f40: f71:Extend f7f:SpacingMark f80:Extend f85: f86:Extend f88: f8d:Extend f98: f99:Extend fbd: fc6:Extend fc7: 102d:Extend 1031:SpacingMark 1032:Extend 1038: 1039:Extend 103b:SpacingMark 103d:Extend 103f: 1056:SpacingMark 1058:Extend 105a: 105e:Extend 1061: 1071:Extend 1075: 1082:Extend 1083: 1084:SpacingMark 1085:Extend 1087: 108d:Extend 108e: 109d:Extend 109e: 1100:L 1160:V 11a8:T 1200: 135d:Extend 1360: 1712:Extend 1716: 1732:Extend 1735: 1752:Extend 1754: " ++
  "1772:Extend 1774: 17b4:Extend 17b6:SpacingMark 17b7:Extend 17be:SpacingMark 17c6:Extend 17c7:SpacingMark 17c9:Extend 17d4: 17dd:Extend 17de: 180b:Extend 180e:Control 180f:Extend 1810: 1885:Extend 1887: 18a9:Extend 18aa: 1920:Extend 1923:SpacingMark 1927:Extend 1929:SpacingMark 192c: 1930:SpacingMark 1932:Extend 1933:SpacingMark 1939:Extend 193c: 1a17:Extend 1a19:SpacingMark 1a1b:Extend 1a1c: 1a55:SpacingMark 1a56:Extend 1a57:SpacingMark 1a58:Extend 1a5f: 1a60:Extend 1a61: 1a62:Extend 1a63: 1a65:Extend 1a6d:SpacingMark 1a73:Extend 1a7d: 1a7f:Extend 1a80: 1ab0:Extend 1acf: 1b00:Extend 1b04:SpacingMark 1b05: 1b34:Extend 1b3e:SpacingMark 1b42:Extend 1b45: 1b6b:Extend 1b74: 1b80:Extend 1b82:SpacingMark 1b83: 1ba1:SpacingMark 1ba2:Extend 1ba6:SpacingMark 1ba8:Extend 1bae: 1be6:Extend 1be7:SpacingMark 1be8:Extend 1bea:SpacingMark 1bed:Extend 1bee:SpacingMark 1bef:Extend 1bf4: 1c24:SpacingMark 1c2c:Extend 1c34:SpacingMark 1c36:Extend 1c38: 1cd0:Extend 1cd3: 1cd4:Extend 1ce1:SpacingMark " ++
  "1ce2:Extend 1ce9: 1ced:Extend 1cee: 1cf4:Extend 1cf5: 1cf7:SpacingMark 1cf8:Extend 1cfa: 1dc0:Extend 1e00: 200b:Control 200c:Extend 200d:ZWJ 200e:Control 2010: 2028:Control 202f: 2060:Control 2070: 20d0:Extend 20f1: 2cef:Extend 2cf2: 2d7f:Extend 2d80: 2de0:Extend 2e00: 302a:Extend 3030: 3099:Extend 309b: a66f:Extend a673: a674:Extend a67e: a69e:Extend a6a0: a6f0:Extend a6f2: a802:Extend a803: a806:Extend a807: a80b:Extend a80c: a823:SpacingMark a825:Extend a827:SpacingMark a828: a82c:Extend a82d: a880:SpacingMark a882: a8b4:SpacingMark a8c4:Extend a8c6: a8e0:Extend a8f2: a8ff:Extend a900: a926:Extend a92e: a947:Extend a952:SpacingMark a953:Extend a954: a960:L a97d: a980:Extend a983:SpacingMark a984: a9b3:Extend a9b4:SpacingMark a9b6:Extend a9ba:SpacingMark a9bc:Extend a9be:SpacingMark a9c0:Extend a9c1: a9e5:Extend a9e6: aa29:Extend aa2f:SpacingMark aa31:Extend aa33:SpacingMark aa35:Extend aa37: aa43:Extend aa44: aa4c:Extend aa4d:SpacingMark aa4e: aa7c:Extend aa7d: aab0:Extend aab1: " ++
  "aab2:Extend aab5: aab7:Extend aab9: aabe:Extend aac0: aac1:Extend aac2: aaeb:SpacingMark aaec:Extend aaee:SpacingMark aaf0: aaf5:SpacingMark aaf6:Extend aaf7: abe3:SpacingMark abe5:Extend abe6:SpacingMark abe8:Extend abe9:SpacingMark abeb: abec:SpacingMark abed:Extend abee: ac00:LV ac01:LVT ac1c:LV ac1d:LVT ac38:LV ac39:LVT ac54:LV ac55:LVT ac70:LV ac71:LVT ac8c:LV ac8d:LVT aca8:LV aca9:LVT acc4:LV acc5:LVT ace0:LV ace1:LVT acfc:LV acfd:LVT ad18:LV ad19:LVT ad34:LV ad35:LVT ad50:LV ad51:LVT ad6c:LV ad6d:LVT ad88:LV ad89:LVT ada4:LV ada5:LVT adc0:LV adc1:LVT addc:LV addd:LVT adf8:LV adf9:LVT ae14:LV ae15:LVT ae30:LV ae31:LVT ae4c:LV ae4d:LVT ae68:LV ae69:LVT ae84:LV ae85:LVT aea0:LV aea1:LVT aebc:LV aebd:LVT aed8:LV aed9:LVT aef4:LV aef5:LVT af10:LV af11:LVT af2c:LV af2d:LVT af48:LV af49:LVT af64:LV af65:LVT af80:LV af81:LVT af9c:LV af9d:LVT afb8:LV afb9:LVT afd4:LV afd5:LVT aff0:LV aff1:LVT b00c:LV b00d:LVT b028:LV b029:LVT b044:LV b045:LVT b060:LV b061:LVT b07c:LV b07d:LVT b098:LV " ++
  "b099:LVT b0b4:LV b0b5:LVT b0d0:LV b0d1:LVT b0ec:LV b0ed:LVT b108:LV b109:LVT b124:LV b125:LVT b140:LV b141:LVT b15c:LV b15d:LVT b178:LV b179:LVT b194:LV b195:LVT b1b0:LV b1b1:LVT b1cc:LV b1cd:LVT b1e8:LV b1e9:LVT b204:LV b205:LVT b220:LV b221:LVT b23c:LV b23d:LVT b258:LV b259:LVT b274:LV b275:LVT b290:LV b291:LVT b2ac:LV b2ad:LVT b2c8:LV b2c9:LVT b2e4:LV b2e5:LVT b300:LV b301:LVT b31c:LV b31d:LVT b338:LV b339:LVT b354:LV b355:LVT b370:LV b371:LVT b38c:LV b38d:LVT b3a8:LV b3a9:LVT b3c4:LV b3c5:LVT b3e0:LV b3e1:LVT b3fc:LV b3fd:LVT b418:LV b419:LVT b434:LV b435:LVT b450:LV b451:LVT b46c:LV b46d:LVT b488:LV b489:LVT b4a4:LV b4a5:LVT b4c0:LV b4c1:LVT b4dc:LV b4dd:LVT b4f8:LV b4f9:LVT b514:LV b515:LVT b530:LV b531:LVT b54c:LV b54d:LVT b568:LV b569:LVT b584:LV b585:LVT b5a0:LV b5a1:LVT b5bc:LV b5bd:LVT b5d8:LV b5d9:LVT b5f4:LV b5f5:LVT b610:LV b611:LVT b62c:LV b62d:LVT b648:LV b649:LVT b664:LV b665:LVT b680:LV b681:LVT b69c:LV b69d:LVT b6b8:LV b6b9:LVT b6d4:LV b6d5:LVT b6f0:LV b6f1:LVT " ++
  "b70c:LV b70d:LVT b728:LV b729:LVT b744:LV b745:LVT b760:LV b761:LVT b77c:LV b77d:LVT b798:LV b799:LVT b7b4:LV b7b5:LVT b7d0:LV b7d1:LVT b7ec:LV b7ed:LVT b808:LV b809:LVT b824:LV b825:LVT b840:LV b841:LVT b85c:LV b85d:LVT b878:LV b879:LVT b894:LV b895:LVT b8b0:LV b8b1:LVT b8cc:LV b8cd:LVT b8e8:LV b8e9:LVT b904:LV b905:LVT b920:LV b921:LVT b93c:LV b93d:LVT b958:LV b959:LVT b974:LV b975:LVT b990:LV b991:LVT b9ac:LV b9ad:LVT b9c8:LV b9c9:LVT b9e4:LV b9e5:LVT ba00:LV ba01:LVT ba1c:LV ba1d:LVT ba38:LV ba39:LVT ba54:LV ba55:LVT ba70:LV ba71:LVT ba8c:LV ba8d:LVT baa8:LV baa9:LVT bac4:LV bac5:LVT bae0:LV bae1:LVT bafc:LV bafd:LVT bb18:LV bb19:LVT bb34:LV bb35:LVT bb50:LV bb51:LVT bb6c:LV bb6d:LVT bb88:LV bb89:LVT bba4:LV bba5:LVT bbc0:LV bbc1:LVT bbdc:LV bbdd:LVT bbf8:LV bbf9:LVT bc14:LV bc15:LVT bc30:LV bc31:LVT bc4c:LV bc4d:LVT bc68:LV bc69:LVT bc84:LV bc85:LVT bca0:LV bca1:LVT bcbc:LV bcbd:LVT bcd8:LV bcd9:LVT bcf4:LV bcf5:LVT bd10:LV bd11:LVT bd2c:LV bd2d:LVT bd48:LV bd49:LVT bd64:LV " ++
  "bd65:LVT bd80:LV bd81:LVT bd9c:LV bd9d:LVT bdb8:LV bdb9:LVT bdd4:LV bdd5:LVT bdf0:LV bdf1:LVT be0c:LV be0d:LVT be28:LV be29:LVT be44:LV be45:LVT be60:LV be61:LVT be7c:LV be7d:LVT be98:LV be99:LVT beb4:LV beb5:LVT bed0:LV bed1:LVT beec:LV beed:LVT bf08:LV bf09:LVT bf24:LV bf25:LVT bf40:LV bf41:LVT bf5c:LV bf5d:LVT bf78:LV bf79:LVT bf94:LV bf95:LVT bfb0:LV bfb1:LVT bfcc:LV bfcd:LVT bfe8:LV bfe9:LVT c004:LV c005:LVT c020:LV c021:LVT c03c:LV c03d:LVT c058:LV c059:LVT c074:LV c075:LVT c090:LV c091:LVT c0ac:LV c0ad:LVT c0c8:LV c0c9:LVT c0e4:LV c0e5:LVT c100:LV c101:LVT c11c:LV c11d:LVT c138:LV c139:LVT c154:LV c155:LVT c170:LV c171:LVT c18c:LV c18d:LVT c1a8:LV c1a9:LVT c1c4:LV c1c5:LVT c1e0:LV c1e1:LVT c1fc:LV c1fd:LVT c218:LV c219:LVT c234:LV c235:LVT c250:LV c251:LVT c26c:LV c26d:LVT c288:LV c289:LVT c2a4:LV c2a5:LVT c2c0:LV c2c1:LVT c2dc:LV c2dd:LVT c2f8:LV c2f9:LVT c314:LV c315:LVT c330:LV c331:LVT c34c:LV c34d:LVT c368:LV c369:LVT c384:LV c385:LVT c3a0:LV c3a1:LVT c3bc:LV c3bd:LVT " ++
  "c3d8:LV c3d9:LVT c3f4:LV c3f5:LVT c410:LV c411:LVT c42c:LV c42d:LVT c448:LV c449:LVT c464:LV c465:LVT c480:LV c481:LVT c49c:LV c49d:LVT c4b8:LV c4b9:LVT c4d4:LV c4d5:LVT c4f0:LV c4f1:LVT c50c:LV c50d:LVT c528:LV c529:LVT c544:LV c545:LVT c560:LV c561:LVT c57c:LV c57d:LVT c598:LV c599:LVT c5b4:LV c5b5:LVT c5d0:LV c5d1:LVT c5ec:LV c5ed:LVT c608:LV c609:LVT c624:LV c625:LVT c640:LV c641:LVT c65c:LV c65d:LVT c678:LV c679:LVT c694:LV c695:LVT c6b0:LV c6b1:LVT c6cc:LV c6cd:LVT c6e8:LV c6e9:LVT c704:LV c705:LVT c720:LV c721:LVT c73c:LV c73d:LVT c758:LV c759:LVT c774:LV c775:LVT c790:LV c791:LVT c7ac:LV c7ad:LVT c7c8:LV c7c9:LVT c7e4:LV c7e5:LVT c800:LV c801:LVT c81c:LV c81d:LVT c838:LV c839:LVT c854:LV c855:LVT c870:LV c871:LVT c88c:LV c88d:LVT c8a8:LV c8a9:LVT c8c4:LV c8c5:LVT c8e0:LV c8e1:LVT c8fc:LV c8fd:LVT c918:LV c919:LVT c934:LV c935:LVT c950:LV c951:LVT c96c:LV c96d:LVT c988:LV c989:LVT c9a4:LV c9a5:LVT c9c0:LV c9c1:LVT c9dc:LV c9dd:LVT c9f8:LV c9f9:LVT ca14:LV ca15:LVT ca30:LV " ++
  "ca31:LVT ca4c:LV ca4d:LVT ca68:LV ca69:LVT ca84:LV ca85:LVT caa0:LV caa1:LVT cabc:LV cabd:LVT cad8:LV cad9:LVT caf4:LV caf5:LVT cb10:LV cb11:LVT cb2c:LV cb2d:LVT cb48:LV cb49:LVT cb64:LV cb65:LVT cb80:LV cb81:LVT cb9c:LV cb9d:LVT cbb8:LV cbb9:LVT cbd4:LV cbd5:LVT cbf0:LV cbf1:LVT cc0c:LV cc0d:LVT cc28:LV cc29:LVT cc44:LV cc45:LVT cc60:LV cc61:LVT cc7c:LV cc7d:LVT cc98:LV cc99:LVT ccb4:LV ccb5:LVT ccd0:LV ccd1:LVT ccec:LV cced:LVT cd08:LV cd09:LVT cd24:LV cd25:LVT cd40:LV cd41:LVT cd5c:LV cd5d:LVT cd78:LV cd79:LVT cd94:LV cd95:LVT cdb0:LV cdb1:LVT cdcc:LV cdcd:LVT cde8:LV cde9:LVT ce04:LV ce05:LVT ce20:LV ce21:LVT ce3c:LV ce3d:LVT ce58:LV ce59:LVT ce74:LV ce75:LVT ce90:LV ce91:LVT ceac:LV cead:LVT cec8:LV cec9:LVT cee4:LV cee5:LVT cf00:LV cf01:LVT cf1c:LV cf1d:LVT cf38:LV cf39:LVT cf54:LV cf55:LVT cf70:LV cf71:LVT cf8c:LV cf8d:LVT cfa8:LV cfa9:LVT cfc4:LV cfc5:LVT cfe0:LV cfe1:LVT cffc:LV cffd:LVT d018:LV d019:LVT d034:LV d035:LVT d050:LV d051:LVT d06c:LV d06d:LVT d088:LV d089:LVT " ++
  "d0a4:LV d0a5:LVT d0c0:LV d0c1:LVT d0dc:LV d0dd:LVT d0f8:LV d0f9:LVT d114:LV d115:LVT d130:LV d131:LVT d14c:LV d14d:LVT d168:LV d169:LVT d184:LV d185:LVT d1a0:LV d1a1:LVT d1bc:LV d1bd:LVT d1d8:LV d1d9:LVT d1f4:LV d1f5:LVT d210:LV d211:LVT d22c:LV d22d:LVT d248:LV d249:LVT d264:LV d265:LVT d280:LV d281:LVT d29c:LV d29d:LVT d2b8:LV d2b9:LVT d2d4:LV d2d5:LVT d2f0:LV d2f1:LVT d30c:LV d30d:LVT d328:LV d329:LVT d344:LV d345:LVT d360:LV d361:LVT d37c:LV d37d:LVT d398:LV d399:LVT d3b4:LV d3b5:LVT d3d0:LV d3d1:LVT d3ec:LV d3ed:LVT d408:LV d409:LVT d424:LV d425:LVT d440:LV d441:LVT d45c:LV d45d:LVT d478:LV d479:LVT d494:LV d495:LVT d4b0:LV d4b1:LVT d4cc:LV d4cd:LVT d4e8:LV d4e9:LVT d504:LV d505:LVT d520:LV d521:LVT d53c:LV d53d:LVT d558:LV d559:LVT d574:LV d575:LVT d590:LV d591:LVT d5ac:LV d5ad:LVT d5c8:LV d5c9:LVT d5e4:LV d5e5:LVT d600:LV d601:LVT d61c:LV d61d:LVT d638:LV d639:LVT d654:LV d655:LVT d670:LV d671:LVT d68c:LV d68d:LVT d6a8:LV d6a9:LVT d6c4:LV d6c5:LVT d6e0:LV d6e1:LVT d6fc:LV " ++
  "d6fd:LVT d718:LV d719:LVT d734:LV d735:LVT d750:LV d751:LVT d76c:LV d76d:LVT d788:LV d789:LVT d7a4: d7b0:V d7c7: d7cb:T d7fc: fb1e:Extend fb1f: fe00:Extend fe10: fe20:Extend fe30: feff:Control ff00: ff9e:Extend ffa0: fff0:Control fffc: 101fd:Extend 101fe: 102e0:Extend 102e1: 10376:Extend 1037b: 10a01:Extend 10a04: 10a05:Extend 10a07: 10a0c:Extend 10a10: 10a38:Extend 10a3b: 10a3f:Extend 10a40: 10ae5:Extend 10ae7: 10d24:Extend 10d28: 10d69:Extend 10d6e: 10eab:Extend 10ead: 10efc:Extend 10f00: 10f46:Extend 10f51: 10f82:Extend 10f86: 11000:SpacingMark 11001:Extend 11002:SpacingMark 11003: 11038:Extend 11047: 11070:Extend 11071: 11073:Extend 11075: 1107f:Extend 11082:SpacingMark 11083: 110b0:SpacingMark 110b3:Extend 110b7:SpacingMark 110b9:Extend 110bb: 110bd:Prepend 110be: 110c2:Extend 110c3: 110cd:Prepend 110ce: 11100:Extend 11103: 11127:Extend 1112c:SpacingMark 1112d:Extend 11135: 11145:SpacingMark 11147: 11173:Extend 11174: 11180:Extend 11182:SpacingMark 11183: 111b3:SpacingMark " ++
  "111b6:Extend 111bf:SpacingMark 111c0:Extend 111c1: 111c2:Prepend 111c4: 111c9:Extend 111cd: 111ce:SpacingMark 111cf:Extend 111d0: 1122c:SpacingMark 1122f:Extend 11232:SpacingMark 11234:Extend 11238: 1123e:Extend 1123f: 11241:Extend 11242: 112df:Extend 112e0:SpacingMark 112e3:Extend 112eb: 11300:Extend 11302:SpacingMark 11304: 1133b:Extend 1133d: 1133e:Extend 1133f:SpacingMark 11340:Extend 11341:SpacingMark 11345: 11347:SpacingMark 11349: 1134b:SpacingMark 1134d:Extend 1134e: 11357:Extend 11358: 11362:SpacingMark 11364: 11366:Extend 1136d: 11370:Extend 11375: 113b8:Extend 113b9:SpacingMark 113bb:Extend 113c1: 113c2:Extend 113c3: 113c5:Extend 113c6: 113c7:Extend 113ca:SpacingMark 113cb: 113cc:SpacingMark 113ce:Extend 113d1:Prepend 113d2:Extend 113d3: 113e1:Extend 113e3: 11435:SpacingMark 11438:Extend 11440:SpacingMark 11442:Extend 11445:SpacingMark 11446:Extend 11447: 1145e:Extend 1145f: 114b0:Extend 114b1:SpacingMark 114b3:Extend 114b9:SpacingMark 114ba:Extend 114bb:SpacingMark " ++
  "114bd:Extend 114be:SpacingMark 114bf:Extend 114c1:SpacingMark 114c2:Extend 114c4: 115af:Extend 115b0:SpacingMark 115b2:Extend 115b6: 115b8:SpacingMark 115bc:Extend 115be:SpacingMark 115bf:Extend 115c1: 115dc:Extend 115de: 11630:SpacingMark 11633:Extend 1163b:SpacingMark 1163d:Extend 1163e:SpacingMark 1163f:Extend 11641: 116ab:Extend 116ac:SpacingMark 116ad:Extend 116ae:SpacingMark 116b0:Extend 116b8: 1171d:Extend 1171e:SpacingMark 1171f:Extend 11720: 11722:Extend 11726:SpacingMark 11727:Extend 1172c: 1182c:SpacingMark 1182f:Extend 11838:SpacingMark 11839:Extend 1183b: 11930:Extend 11931:SpacingMark 11936: 11937:SpacingMark 11939: 1193b:Extend 1193f:Prepend 11940:SpacingMark 11941:Prepend 11942:SpacingMark 11943:Extend 11944: 119d1:SpacingMark 119d4:Extend 119d8: 119da:Extend 119dc:SpacingMark 119e0:Extend 119e1: 119e4:SpacingMark 119e5: 11a01:Extend 11a0b: 11a33:Extend 11a39:SpacingMark 11a3a:Prepend 11a3b:Extend 11a3f: 11a47:Extend 11a48: 11a51:Extend 11a57:SpacingMark 11a59:Extend " ++
  "11a5c: 11a84:Prepend 11a8a:Extend 11a97:SpacingMark 11a98:Extend 11a9a: 11c2f:SpacingMark 11c30:Extend 11c37: 11c38:Extend 11c3e:SpacingMark 11c3f:Extend 11c40: 11c92:Extend 11ca8: 11ca9:SpacingMark 11caa:Extend 11cb1:SpacingMark 11cb2:Extend 11cb4:SpacingMark 11cb5:Extend 11cb7: 11d31:Extend 11d37: 11d3a:Extend 11d3b: 11d3c:Extend 11d3e: 11d3f:Extend 11d46:Prepend 11d47:Extend 11d48: 11d8a:SpacingMark 11d8f: 11d90:Extend 11d92: 11d93:SpacingMark 11d95:Extend 11d96:SpacingMark 11d97:Extend 11d98: 11ef3:Extend 11ef5:SpacingMark 11ef7: 11f00:Extend 11f02:Prepend 11f03:SpacingMark 11f04: 11f34:SpacingMark 11f36:Extend 11f3b: 11f3e:SpacingMark 11f40:Extend 11f43: 11f5a:Extend 11f5b: 13430:Control 13440:Extend 13441: 13447:Extend 13456: 1611e:Extend 1612a:SpacingMark 1612d:Extend 16130: 16af0:Extend 16af5: 16b30:Extend 16b37: 16f4f:Extend 16f50: 16f51:SpacingMark 16f88: 16f8f:Extend 16f93: 16fe4:Extend 16fe5: 16ff0:Extend 16ff2: 1bc9d:Extend 1bc9f: 1bca0:Control 1bca4: 1cf00:Extend 1cf2e: " ++
  "1cf30:Extend 1cf47: 1d165:Extend 1d16a: 1d16d:Extend 1d173:Control 1d17b:Extend 1d183: 1d185:Extend 1d18c: 1d1aa:Extend 1d1ae: 1d242:Extend 1d245: 1da00:Extend 1da37: 1da3b:Extend 1da6d: 1da75:Extend 1da76: 1da84:Extend 1da85: 1da9b:Extend 1daa0: 1daa1:Extend 1dab0: 1e000:Extend 1e007: 1e008:Extend 1e019: 1e01b:Extend 1e022: 1e023:Extend 1e025: 1e026:Extend 1e02b: 1e08f:Extend 1e090: 1e130:Extend 1e137: 1e2ae:Extend 1e2af: 1e2ec:Extend 1e2f0: 1e4ec:Extend 1e4f0: 1e5ee:Extend 1e5f0: 1e8d0:Extend 1e8d7: 1e944:Extend 1e94b: 1f1e6:Regional_Indicator 1f200: 1f3fb:Extend 1f400: e0000:Control e0020:Extend e0080:Control e0100:Extend e01f0:Control e1000:"

/-- The word break of every code point. -/
def wordBreakText : String :=
  "0: a:LF b:Newline d:CR e: 20:WSegSpace 21: 22:Double_Quote 23: 27:Single_Quote 28: 2c:MidNum 2d: 2e:MidNumLet 2f: 30:Numeric 3a:MidLetter 3b:MidNum 3c: 41:ALetter 5b: 5f:ExtendNumLet 60: 61:ALetter 7b: 85:Newline 86: aa:ALetter ab: ad:Format ae: b5:ALetter b6: b7:MidLetter b8: ba:ALetter bb: c0:ALetter d7: d8:ALetter f7: f8:ALetter 2d8: 2de:ALetter 300:Extend 370:ALetter 375: 376:ALetter 378: 37a:ALetter 37e:MidNum 37f:ALetter 380: 386:ALetter 387:MidLetter 388:ALetter 38b: 38c:ALetter 38d: 38e:ALetter 3a2: 3a3:ALetter 3f6: 3f7:ALetter 482: 483:Extend 48a:ALetter 530: 531:ALetter 557: 559:ALetter 55d: 55e:ALetter 55f:MidLetter 560:ALetter 589:MidNum 58a:ALetter 58b: 591:Extend 5be: 5bf:Extend 5c0: 5c1:Extend 5c3: 5c4:Extend 5c6: 5c7:Extend 5c8: 5d0:Hebrew_Letter 5eb: 5ef:Hebrew_Letter 5f3:ALetter 5f4:MidLetter 5f5: 600:Format 606: 60c:MidNum 60e: 610:Extend 61b: 61c:Format 61d: 620:ALetter 64b:Extend 660:Numeric 66a: 66b:Numeric 66c:MidNum 66d: 66e:ALetter 670:Extend 671:ALetter 6d4: " ++
  "6d5:ALetter 6d6:Extend 6dd:Format 6de: 6df:Extend 6e5:ALetter 6e7:Extend 6e9: 6ea:Extend 6ee:ALetter 6f0:Numeric 6fa:ALetter 6fd: 6ff:ALetter 700: 70f:Format 710:ALetter 711:Extend 712:ALetter 730:Extend 74b: 74d:ALetter 7a6:Extend 7b1:ALetter 7b2: 7c0:Numeric 7ca:ALetter 7eb:Extend 7f4:ALetter 7f6: 7f8:MidNum 7f9: 7fa:ALetter 7fb: 7fd:Extend 7fe: 800:ALetter 816:Extend 81a:ALetter 81b:Extend 824:ALetter 825:Extend 828:ALetter 829:Extend 82e: 840:ALetter 859:Extend 85c: 860:ALetter 86b: 870:ALetter 888: 889:ALetter 88f: 890:Format 892: 897:Extend 8a0:ALetter 8ca:Extend 8e2:Format 8e3:Extend 904:ALetter 93a:Extend 93d:ALetter 93e:Extend 950:ALetter 951:Extend 958:ALetter 962:Extend 964: 966:Numeric 970: 971:ALetter 981:Extend 984: 985:ALetter 98d: 98f:ALetter 991: 993:ALetter 9a9: 9aa:ALetter 9b1: 9b2:ALetter 9b3: 9b6:ALetter 9ba: 9bc:Extend 9bd:ALetter 9be:Extend 9c5: 9c7:Extend 9c9: 9cb:Extend 9ce:ALetter 9cf: 9d7:Extend 9d8: 9dc:ALetter 9de: 9df:ALetter 9e2:Extend 9e4: 9e6:Numeric " ++
  "9f0:ALetter 9f2: 9fc:ALetter 9fd: 9fe:Extend 9ff: a01:Extend a04: a05:ALetter a0b: a0f:ALetter a11: a13:ALetter a29: a2a:ALetter a31: a32:ALetter a34: a35:ALetter a37: a38:ALetter a3a: a3c:Extend a3d: a3e:Extend a43: a47:Extend a49: a4b:Extend a4e: a51:Extend a52: a59:ALetter a5d: a5e:ALetter a5f: a66:Numeric a70:Extend a72:ALetter a75:Extend a76: a81:Extend a84: a85:ALetter a8e: a8f:ALetter a92: a93:ALetter aa9: aaa:ALetter ab1: ab2:ALetter ab4: ab5:ALetter aba: abc:Extend abd:ALetter abe:Extend ac6: ac7:Extend aca: acb:Extend ace: ad0:ALetter ad1: ae0:ALetter ae2:Extend ae4: ae6:Numeric af0: af9:ALetter afa:Extend b00: b01:Extend b04: b05:ALetter b0d: b0f:ALetter b11: b13:ALetter b29: b2a:ALetter b31: b32:ALetter b34: b35:ALetter b3a: b3c:Extend b3d:ALetter b3e:Extend b45: b47:Extend b49: b4b:Extend b4e: b55:Extend b58: b5c:ALetter b5e: b5f:ALetter b62:Extend b64: b66:Numeric b70: b71:ALetter b72: b82:Extend b83:ALetter b84: b85:ALetter b8b: b8e:ALetter b91: b92:ALetter b96: " ++
  "b99:ALetter b9b: b9c:ALetter b9d: b9e:ALetter ba0: ba3:ALetter ba5: ba8:ALetter bab: bae:ALetter bba: bbe:Extend bc3: bc6:Extend bc9: bca:Extend bce: bd0:ALetter bd1: bd7:Extend bd8: be6:Numeric bf0: c00:Extend c05:ALetter c0d: c0e:ALetter c11: c12:ALetter c29: c2a:ALetter c3a: c3c:Extend c3d:ALetter c3e:Extend c45: c46:Extend c49: c4a:Extend c4e: c55:Extend c57: c58:ALetter c5b: c5d:ALetter c5e: c60:ALetter c62:Extend c64: c66:Numeric c70: c80:ALetter c81:Extend c84: c85:ALetter c8d: c8e:ALetter c91: c92:ALetter ca9: caa:ALetter cb4: cb5:ALetter cba: cbc:Extend cbd:ALetter cbe:Extend cc5: cc6:Extend cc9: cca:Extend cce: cd5:Extend cd7: cdd:ALetter cdf: ce0:ALetter ce2:Extend ce4: ce6:Numeric cf0: cf1:ALetter cf3:Extend cf4: d00:Extend d04:ALetter d0d: d0e:ALetter d11: d12:ALetter d3b:Extend d3d:ALetter d3e:Extend d45: d46:Extend d49: d4a:Extend d4e:ALetter d4f: d54:ALetter d57:Extend d58: d5f:ALetter d62:Extend d64: d66:Numeric d70: d7a:ALetter d80: d81:Extend d84: d85:ALetter d97: " ++
  "d9a:ALetter db2: db3:ALetter dbc: dbd:ALetter dbe: dc0:ALetter dc7: dca:Extend dcb: dcf:Extend dd5: dd6:Extend dd7: dd8:Extend de0: de6:Numeric df0: df2:Extend df4: e31:Extend e32: e34:Extend e3b: e47:Extend e4f: e50:Numeric e5a: eb1:Extend eb2: eb4:Extend ebd: ec8:Extend ecf: ed0:Numeric eda: f00:ALetter f01: f18:Extend f1a: f20:Numeric f2a: f35:Extend f36: f37:Extend f38: f39:Extend f3a: f3e:Extend f40:ALetter f48: f49:ALetter f6d: f71:Extend f85: f86:Extend f88:ALetter f8d:Extend f98: f99:Extend fbd: fc6:Extend fc7: 102b:Extend 103f: 1040:Numeric 104a: 1056:Extend 105a: 105e:Extend 1061: 1062:Extend 1065: 1067:Extend 106e: 1071:Extend 1075: 1082:Extend 108e: 108f:Extend 1090:Numeric 109a:Extend 109e: 10a0:ALetter 10c6: 10c7:ALetter 10c8: 10cd:ALetter 10ce: 10d0:ALetter 10fb: 10fc:ALetter 1249: 124a:ALetter 124e: 1250:ALetter 1257: 1258:ALetter 1259: 125a:ALetter 125e: 1260:ALetter 1289: 128a:ALetter 128e: 1290:ALetter 12b1: 12b2:ALetter 12b6: 12b8:ALetter 12bf: 12c0:ALetter 12c1: " ++
  "12c2:ALetter 12c6: 12c8:ALetter 12d7: 12d8:ALetter 1311: 1312:ALetter 1316: 1318:ALetter 135b: 135d:Extend 1360: 1380:ALetter 1390: 13a0:ALetter 13f6: 13f8:ALetter 13fe: 1401:ALetter 166d: 166f:ALetter 1680:WSegSpace 1681:ALetter 169b: 16a0:ALetter 16eb: 16ee:ALetter 16f9: 1700:ALetter 1712:Extend 1716: 171f:ALetter 1732:Extend 1735: 1740:ALetter 1752:Extend 1754: 1760:ALetter 176d: 176e:ALetter 1771: 1772:Extend 1774: 17b4:Extend 17d4: 17dd:Extend 17de: 17e0:Numeric 17ea: 180b:Extend 180e:Format 180f:Extend 1810:Numeric 181a: 1820:ALetter 1879: 1880:ALetter 1885:Extend 1887:ALetter 18a9:Extend 18aa:ALetter 18ab: 18b0:ALetter 18f6: 1900:ALetter 191f: 1920:Extend 192c: 1930:Extend 193c: 1946:Numeric 1950: 19d0:Numeric 19da: 1a00:ALetter 1a17:Extend 1a1c: 1a55:Extend 1a5f: 1a60:Extend 1a7d: 1a7f:Extend 1a80:Numeric 1a8a: 1a90:Numeric 1a9a: 1ab0:Extend 1acf: 1b00:Extend 1b05:ALetter 1b34:Extend 1b45:ALetter 1b4d: 1b50:Numeric 1b5a: 1b6b:Extend 1b74: 1b80:Extend 1b83:ALetter 1ba1:Extend " ++
  "1bae:ALetter 1bb0:Numeric 1bba:ALetter 1be6:Extend 1bf4: 1c00:ALetter 1c24:Extend 1c38: 1c40:Numeric 1c4a: 1c4d:ALetter 1c50:Numeric 1c5a:ALetter 1c7e: 1c80:ALetter 1c8b: 1c90:ALetter 1cbb: 1cbd:ALetter 1cc0: 1cd0:Extend 1cd3: 1cd4:Extend 1ce9:ALetter 1ced:Extend 1cee:ALetter 1cf4:Extend 1cf5:ALetter 1cf7:Extend 1cfa:ALetter 1cfb: 1d00:ALetter 1dc0:Extend 1e00:ALetter 1f16: 1f18:ALetter 1f1e: 1f20:ALetter 1f46: 1f48:ALetter 1f4e: 1f50:ALetter 1f58: 1f59:ALetter 1f5a: 1f5b:ALetter 1f5c: 1f5d:ALetter 1f5e: 1f5f:ALetter 1f7e: 1f80:ALetter 1fb5: 1fb6:ALetter 1fbd: 1fbe:ALetter 1fbf: 1fc2:ALetter 1fc5: 1fc6:ALetter 1fcd: 1fd0:ALetter 1fd4: 1fd6:ALetter 1fdc: 1fe0:ALetter 1fed: 1ff2:ALetter 1ff5: 1ff6:ALetter 1ffd: 2000:WSegSpace 2007: 2008:WSegSpace 200b: 200c:Extend 200d:ZWJ 200e:Format 2010: 2018:MidNumLet 201a: 2024:MidNumLet 2025: 2027:MidLetter 2028:Newline 202a:Format 202f:ExtendNumLet 2030: 203f:ExtendNumLet 2041: 2044:MidNum 2045: 2054:ExtendNumLet 2055: 205f:WSegSpace 2060:Format " ++
  "2065: 2066:Format 2070: 2071:ALetter 2072: 207f:ALetter 2080: 2090:ALetter 209d: 20d0:Extend 20f1: 2102:ALetter 2103: 2107:ALetter 2108: 210a:ALetter 2114: 2115:ALetter 2116: 2119:ALetter 211e: 2124:ALetter 2125: 2126:ALetter 2127: 2128:ALetter 2129: 212a:ALetter 212e: 212f:ALetter 213a: 213c:ALetter 2140: 2145:ALetter 214a: 214e:ALetter 214f: 2160:ALetter 2189: 24b6:ALetter 24ea: 2c00:ALetter 2ce5: 2ceb:ALetter 2cef:Extend 2cf2:ALetter 2cf4: 2d00:ALetter 2d26: 2d27:ALetter 2d28: 2d2d:ALetter 2d2e: 2d30:ALetter 2d68: 2d6f:ALetter 2d70: 2d7f:Extend 2d80:ALetter 2d97: 2da0:ALetter 2da7: 2da8:ALetter 2daf: 2db0:ALetter 2db7: 2db8:ALetter 2dbf: 2dc0:ALetter 2dc7: 2dc8:ALetter 2dcf: 2dd0:ALetter 2dd7: 2dd8:ALetter 2ddf: 2de0:Extend 2e00: 2e2f:ALetter 2e30: 3000:WSegSpace 3001: 3005:ALetter 3006: 302a:Extend 3030: 3031:Katakana 3036: 303b:ALetter 303d: 3099:Extend 309b:Katakana 309d: 30a0:Katakana 30fb: 30fc:Katakana 3100: 3105:ALetter 3130: 3131:ALetter 318f: 31a0:ALetter 31c0: " ++
  "31f0:Katakana 3200: 32d0:Katakana 32ff: 3300:Katakana 3358: a000:ALetter a48d: a4d0:ALetter a4fe: a500:ALetter a60d: a610:ALetter a620:Numeric a62a:ALetter a62c: a640:ALetter a66f:Extend a673: a674:Extend a67e: a67f:ALetter a69e:Extend a6a0:ALetter a6f0:Extend a6f2: a708:ALetter a7ce: a7d0:ALetter a7d2: a7d3:ALetter a7d4: a7d5:ALetter a7dd: a7f2:ALetter a802:Extend a803:ALetter a806:Extend a807:ALetter a80b:Extend a80c:ALetter a823:Extend a828: a82c:Extend a82d: a840:ALetter a874: a880:Extend a882:ALetter a8b4:Extend a8c6: a8d0:Numeric a8da: a8e0:Extend a8f2:ALetter a8f8: a8fb:ALetter a8fc: a8fd:ALetter a8ff:Extend a900:Numeric a90a:ALetter a926:Extend a92e: a930:ALetter a947:Extend a954: a960:ALetter a97d: a980:Extend a984:ALetter a9b3:Extend a9c1: a9cf:ALetter a9d0:Numeric a9da: a9e5:Extend a9e6: a9f0:Numeric a9fa: aa00:ALetter aa29:Extend aa37: aa40:ALetter aa43:Extend aa44:ALetter aa4c:Extend aa4e: aa50:Numeric aa5a: aa7b:Extend aa7e: aab0:Extend aab1: aab2:Extend aab5: aab7:Extend " ++
  "aab9: aabe:Extend aac0: aac1:Extend aac2: aae0:ALetter aaeb:Extend aaf0: aaf2:ALetter aaf5:Extend aaf7: ab01:ALetter ab07: ab09:ALetter ab0f: ab11:ALetter ab17: ab20:ALetter ab27: ab28:ALetter ab2f: ab30:ALetter ab6a: ab70:ALetter abe3:Extend abeb: abec:Extend abee: abf0:Numeric abfa: ac00:ALetter d7a4: d7b0:ALetter d7c7: d7cb:ALetter d7fc: fb00:ALetter fb07: fb13:ALetter fb18: fb1d:Hebrew_Letter fb1e:Extend fb1f:Hebrew_Letter fb29: fb2a:Hebrew_Letter fb37: fb38:Hebrew_Letter fb3d: fb3e:Hebrew_Letter fb3f: fb40:Hebrew_Letter fb42: fb43:Hebrew_Letter fb45: fb46:Hebrew_Letter fb50:ALetter fbb2: fbd3:ALetter fd3e: fd50:ALetter fd90: fd92:ALetter fdc8: fdf0:ALetter fdfc: fe00:Extend fe10:MidNum fe11: fe13:MidLetter fe14:MidNum fe15: fe20:Extend fe30: fe33:ExtendNumLet fe35: fe4d:ExtendNumLet fe50:MidNum fe51: fe52:MidNumLet fe53: fe54:MidNum fe55:MidLetter fe56: fe70:ALetter fe75: fe76:ALetter fefd: feff:Format ff00: ff07:MidNumLet ff08: ff0c:MidNum ff0d: ff0e:MidNumLet ff0f: ff10:Numeric " ++
  "ff1a:MidLetter ff1b:MidNum ff1c: ff21:ALetter ff3b: ff3f:ExtendNumLet ff40: ff41:ALetter ff5b: ff66:Katakana ff9e:Extend ffa0:ALetter ffbf: ffc2:ALetter ffc8: ffca:ALetter ffd0: ffd2:ALetter ffd8: ffda:ALetter ffdd: fff9:Format fffc: 10000:ALetter 1000c: 1000d:ALetter 10027: 10028:ALetter 1003b: 1003c:ALetter 1003e: 1003f:ALetter 1004e: 10050:ALetter 1005e: 10080:ALetter 100fb: 10140:ALetter 10175: 101fd:Extend 101fe: 10280:ALetter 1029d: 102a0:ALetter 102d1: 102e0:Extend 102e1: 10300:ALetter 10320: 1032d:ALetter 1034b: 10350:ALetter 10376:Extend 1037b: 10380:ALetter 1039e: 103a0:ALetter 103c4: 103c8:ALetter 103d0: 103d1:ALetter 103d6: 10400:ALetter 1049e: 104a0:Numeric 104aa: 104b0:ALetter 104d4: 104d8:ALetter 104fc: 10500:ALetter 10528: 10530:ALetter 10564: 10570:ALetter 1057b: 1057c:ALetter 1058b: 1058c:ALetter 10593: 10594:ALetter 10596: 10597:ALetter 105a2: 105a3:ALetter 105b2: 105b3:ALetter 105ba: 105bb:ALetter 105bd: 105c0:ALetter 105f4: 10600:ALetter 10737: 10740:ALetter 10756: " ++
  "10760:ALetter 10768: 10780:ALetter 10786: 10787:ALetter 107b1: 107b2:ALetter 107bb: 10800:ALetter 10806: 10808:ALetter 10809: 1080a:ALetter 10836: 10837:ALetter 10839: 1083c:ALetter 1083d: 1083f:ALetter 10856: 10860:ALetter 10877: 10880:ALetter 1089f: 108e0:ALetter 108f3: 108f4:ALetter 108f6: 10900:ALetter 10916: 10920:ALetter 1093a: 10980:ALetter 109b8: 109be:ALetter 109c0: 10a00:ALetter 10a01:Extend 10a04: 10a05:Extend 10a07: 10a0c:Extend 10a10:ALetter 10a14: 10a15:ALetter 10a18: 10a19:ALetter 10a36: 10a38:Extend 10a3b: 10a3f:Extend 10a40: 10a60:ALetter 10a7d: 10a80:ALetter 10a9d: 10ac0:ALetter 10ac8: 10ac9:ALetter 10ae5:Extend 10ae7: 10b00:ALetter 10b36: 10b40:ALetter 10b56: 10b60:ALetter 10b73: 10b80:ALetter 10b92: 10c00:ALetter 10c49: 10c80:ALetter 10cb3: 10cc0:ALetter 10cf3: 10d00:ALetter 10d24:Extend 10d28: 10d30:Numeric 10d3a: 10d40:Numeric 10d4a:ALetter 10d66: 10d69:Extend 10d6e: 10d6f:ALetter 10d86: 10e80:ALetter 10eaa: 10eab:Extend 10ead: 10eb0:ALetter 10eb2: 10ec2:ALetter " ++
  "10ec5: 10efc:Extend 10f00:ALetter 10f1d: 10f27:ALetter 10f28: 10f30:ALetter 10f46:Extend 10f51: 10f70:ALetter 10f82:Extend 10f86: 10fb0:ALetter 10fc5: 10fe0:ALetter 10ff7: 11000:Extend 11003:ALetter 11038:Extend 11047: 11066:Numeric 11070:Extend 11071:ALetter 11073:Extend 11075:ALetter 11076: 1107f:Extend 11083:ALetter 110b0:Extend 110bb: 110bd:Format 110be: 110c2:Extend 110c3: 110cd:Format 110ce: 110d0:ALetter 110e9: 110f0:Numeric 110fa: 11100:Extend 11103:ALetter 11127:Extend 11135: 11136:Numeric 11140: 11144:ALetter 11145:Extend 11147:ALetter 11148: 11150:ALetter 11173:Extend 11174: 11176:ALetter 11177: 11180:Extend 11183:ALetter 111b3:Extend 111c1:ALetter 111c5: 111c9:Extend 111cd: 111ce:Extend 111d0:Numeric 111da:ALetter 111db: 111dc:ALetter 111dd: 11200:ALetter 11212: 11213:ALetter 1122c:Extend 11238: 1123e:Extend 1123f:ALetter 11241:Extend 11242: 11280:ALetter 11287: 11288:ALetter 11289: 1128a:ALetter 1128e: 1128f:ALetter 1129e: 1129f:ALetter 112a9: 112b0:ALetter 112df:Extend " ++
  "112eb: 112f0:Numeric 112fa: 11300:Extend 11304: 11305:ALetter 1130d: 1130f:ALetter 11311: 11313:ALetter 11329: 1132a:ALetter 11331: 11332:ALetter 11334: 11335:ALetter 1133a: 1133b:Extend 1133d:ALetter 1133e:Extend 11345: 11347:Extend 11349: 1134b:Extend 1134e: 11350:ALetter 11351: 11357:Extend 11358: 1135d:ALetter 11362:Extend 11364: 11366:Extend 1136d: 11370:Extend 11375: 11380:ALetter 1138a: 1138b:ALetter 1138c: 1138e:ALetter 1138f: 11390:ALetter 113b6: 113b7:ALetter 113b8:Extend 113c1: 113c2:Extend 113c3: 113c5:Extend 113c6: 113c7:Extend 113cb: 113cc:Extend 113d1:ALetter 113d2:Extend 113d3:ALetter 113d4: 113e1:Extend 113e3: 11400:ALetter 11435:Extend 11447:ALetter 1144b: 11450:Numeric 1145a: 1145e:Extend 1145f:ALetter 11462: 11480:ALetter 114b0:Extend 114c4:ALetter 114c6: 114c7:ALetter 114c8: 114d0:Numeric 114da: 11580:ALetter 115af:Extend 115b6: 115b8:Extend 115c1: 115d8:ALetter 115dc:Extend 115de: 11600:ALetter 11630:Extend 11641: 11644:ALetter 11645: 11650:Numeric 1165a: " ++
  "11680:ALetter 116ab:Extend 116b8:ALetter 116b9: 116c0:Numeric 116ca: 116d0:Numeric 116e4: 1171d:Extend 1172c: 11730:Numeric 1173a: 11800:ALetter 1182c:Extend 1183b: 118a0:ALetter 118e0:Numeric 118ea: 118ff:ALetter 11907: 11909:ALetter 1190a: 1190c:ALetter 11914: 11915:ALetter 11917: 11918:ALetter 11930:Extend 11936: 11937:Extend 11939: 1193b:Extend 1193f:ALetter 11940:Extend 11941:ALetter 11942:Extend 11944: 11950:Numeric 1195a: 119a0:ALetter 119a8: 119aa:ALetter 119d1:Extend 119d8: 119da:Extend 119e1:ALetter 119e2: 119e3:ALetter 119e4:Extend 119e5: 11a00:ALetter 11a01:Extend 11a0b:ALetter 11a33:Extend 11a3a:ALetter 11a3b:Extend 11a3f: 11a47:Extend 11a48: 11a50:ALetter 11a51:Extend 11a5c:ALetter 11a8a:Extend 11a9a: 11a9d:ALetter 11a9e: 11ab0:ALetter 11af9: 11bc0:ALetter 11be1: 11bf0:Numeric 11bfa: 11c00:ALetter 11c09: 11c0a:ALetter 11c2f:Extend 11c37: 11c38:Extend 11c40:ALetter 11c41: 11c50:Numeric 11c5a: 11c72:ALetter 11c90: 11c92:Extend 11ca8: 11ca9:Extend 11cb7: 11d00:ALetter 11d07: " ++
  "11d08:ALetter 11d0a: 11d0b:ALetter 11d31:Extend 11d37: 11d3a:Extend 11d3b: 11d3c:Extend 11d3e: 11d3f:Extend 11d46:ALetter 11d47:Extend 11d48: 11d50:Numeric 11d5a: 11d60:ALetter 11d66: 11d67:ALetter 11d69: 11d6a:ALetter 11d8a:Extend 11d8f: 11d90:Extend 11d92: 11d93:Extend 11d98:ALetter 11d99: 11da0:Numeric 11daa: 11ee0:ALetter 11ef3:Extend 11ef7: 11f00:Extend 11f02:ALetter 11f03:Extend 11f04:ALetter 11f11: 11f12:ALetter 11f34:Extend 11f3b: 11f3e:Extend 11f43: 11f50:Numeric 11f5a:Extend 11f5b: 11fb0:ALetter 11fb1: 12000:ALetter 1239a: 12400:ALetter 1246f: 12480:ALetter 12544: 12f90:ALetter 12ff1: 13000:ALetter 13430:Format 13440:Extend 13441:ALetter 13447:Extend 13456: 13460:ALetter 143fb: 14400:ALetter 14647: 16100:ALetter 1611e:Extend 16130:Numeric 1613a: 16800:ALetter 16a39: 16a40:ALetter 16a5f: 16a60:Numeric 16a6a: 16a70:ALetter 16abf: 16ac0:Numeric 16aca: 16ad0:ALetter 16aee: 16af0:Extend 16af5: 16b00:ALetter 16b30:Extend 16b37: 16b40:ALetter 16b44: 16b50:Numeric 16b5a: " ++
  "16b63:ALetter 16b78: 16b7d:ALetter 16b90: 16d40:ALetter 16d6d: 16d70:Numeric 16d7a: 16e40:ALetter 16e80: 16f00:ALetter 16f4b: 16f4f:Extend 16f50:ALetter 16f51:Extend 16f88: 16f8f:Extend 16f93:ALetter 16fa0: 16fe0:ALetter 16fe2: 16fe3:ALetter 16fe4:Extend 16fe5: 16ff0:Extend 16ff2: 1aff0:Katakana 1aff4: 1aff5:Katakana 1affc: 1affd:Katakana 1afff: 1b000:Katakana 1b001: 1b120:Katakana 1b123: 1b155:Katakana 1b156: 1b164:Katakana 1b168: 1bc00:ALetter 1bc6b: 1bc70:ALetter 1bc7d: 1bc80:ALetter 1bc89: 1bc90:ALetter 1bc9a: 1bc9d:Extend 1bc9f: 1bca0:Format 1bca4: 1ccf0:Numeric 1ccfa: 1cf00:Extend 1cf2e: 1cf30:Extend 1cf47: 1d165:Extend 1d16a: 1d16d:Extend 1d173:Format 1d17b:Extend 1d183: 1d185:Extend 1d18c: 1d1aa:Extend 1d1ae: 1d242:Extend 1d245: 1d400:ALetter 1d455: 1d456:ALetter 1d49d: 1d49e:ALetter 1d4a0: 1d4a2:ALetter 1d4a3: 1d4a5:ALetter 1d4a7: 1d4a9:ALetter 1d4ad: 1d4ae:ALetter 1d4ba: 1d4bb:ALetter 1d4bc: 1d4bd:ALetter 1d4c4: 1d4c5:ALetter 1d506: 1d507:ALetter 1d50b: 1d50d:ALetter 1d515: " ++
  "1d516:ALetter 1d51d: 1d51e:ALetter 1d53a: 1d53b:ALetter 1d53f: 1d540:ALetter 1d545: 1d546:ALetter 1d547: 1d54a:ALetter 1d551: 1d552:ALetter 1d6a6: 1d6a8:ALetter 1d6c1: 1d6c2:ALetter 1d6db: 1d6dc:ALetter 1d6fb: 1d6fc:ALetter 1d715: 1d716:ALetter 1d735: 1d736:ALetter 1d74f: 1d750:ALetter 1d76f: 1d770:ALetter 1d789: 1d78a:ALetter 1d7a9: 1d7aa:ALetter 1d7c3: 1d7c4:ALetter 1d7cc: 1d7ce:Numeric 1d800: 1da00:Extend 1da37: 1da3b:Extend 1da6d: 1da75:Extend 1da76: 1da84:Extend 1da85: 1da9b:Extend 1daa0: 1daa1:Extend 1dab0: 1df00:ALetter 1df1f: 1df25:ALetter 1df2b: 1e000:Extend 1e007: 1e008:Extend 1e019: 1e01b:Extend 1e022: 1e023:Extend 1e025: 1e026:Extend 1e02b: 1e030:ALetter 1e06e: 1e08f:Extend 1e090: 1e100:ALetter 1e12d: 1e130:Extend 1e137:ALetter 1e13e: 1e140:Numeric 1e14a: 1e14e:ALetter 1e14f: 1e290:ALetter 1e2ae:Extend 1e2af: 1e2c0:ALetter 1e2ec:Extend 1e2f0:Numeric 1e2fa: 1e4d0:ALetter 1e4ec:Extend 1e4f0:Numeric 1e4fa: 1e5d0:ALetter 1e5ee:Extend 1e5f0:ALetter 1e5f1:Numeric 1e5fb: " ++
  "1e7e0:ALetter 1e7e7: 1e7e8:ALetter 1e7ec: 1e7ed:ALetter 1e7ef: 1e7f0:ALetter 1e7ff: 1e800:ALetter 1e8c5: 1e8d0:Extend 1e8d7: 1e900:ALetter 1e944:Extend 1e94b:ALetter 1e94c: 1e950:Numeric 1e95a: 1ee00:ALetter 1ee04: 1ee05:ALetter 1ee20: 1ee21:ALetter 1ee23: 1ee24:ALetter 1ee25: 1ee27:ALetter 1ee28: 1ee29:ALetter 1ee33: 1ee34:ALetter 1ee38: 1ee39:ALetter 1ee3a: 1ee3b:ALetter 1ee3c: 1ee42:ALetter 1ee43: 1ee47:ALetter 1ee48: 1ee49:ALetter 1ee4a: 1ee4b:ALetter 1ee4c: 1ee4d:ALetter 1ee50: 1ee51:ALetter 1ee53: 1ee54:ALetter 1ee55: 1ee57:ALetter 1ee58: 1ee59:ALetter 1ee5a: 1ee5b:ALetter 1ee5c: 1ee5d:ALetter 1ee5e: 1ee5f:ALetter 1ee60: 1ee61:ALetter 1ee63: 1ee64:ALetter 1ee65: 1ee67:ALetter 1ee6b: 1ee6c:ALetter 1ee73: 1ee74:ALetter 1ee78: 1ee79:ALetter 1ee7d: 1ee7e:ALetter 1ee7f: 1ee80:ALetter 1ee8a: 1ee8b:ALetter 1ee9c: 1eea1:ALetter 1eea4: 1eea5:ALetter 1eeaa: 1eeab:ALetter 1eebc: 1f130:ALetter 1f14a: 1f150:ALetter 1f16a: 1f170:ALetter 1f18a: 1f1e6:Regional_Indicator 1f200: 1f3fb:Extend " ++
  "1f400: 1fbf0:Numeric 1fbfa: e0001:Format e0002: e0020:Extend e0080: e0100:Extend e01f0:"

/-- The sentence break of every code point. -/
def sentenceBreakText : String :=
  "0: 9:Sp a:LF b:Sp d:CR e: 20:Sp 21:STerm 22:Close 23: 27:Close 2a: 2c:SContinue 2e:ATerm 2f: 30:Numeric 3a:SContinue 3c: 3f:STerm 40: 41:Upper 5b:Close 5c: 5d:Close 5e: 61:Lower 7b:Close 7c: 7d:Close 7e: 85:Sep 86: a0:Sp a1: aa:Lower ab:Close ac: ad:Format ae: b5:Lower b6: ba:Lower bb:Close bc: c0:Upper d7: d8:Upper df:Lower f7: f8:Lower 100:Upper 101:Lower 102:Upper 103:Lower 104:Upper 105:Lower 106:Upper 107:Lower 108:Upper 109:Lower 10a:Upper 10b:Lower 10c:Upper 10d:Lower 10e:Upper 10f:Lower 110:Upper 111:Lower 112:Upper 113:Lower 114:Upper 115:Lower 116:Upper 117:Lower 118:Upper 119:Lower 11a:Upper 11b:Lower 11c:Upper 11d:Lower 11e:Upper 11f:Lower 120:Upper 121:Lower 122:Upper 123:Lower 124:Upper 125:Lower 126:Upper 127:Lower 128:Upper 129:Lower 12a:Upper 12b:Lower 12c:Upper 12d:Lower 12e:Upper 12f:Lower 130:Upper 131:Lower 132:Upper 133:Lower 134:Upper 135:Lower 136:Upper 137:Lower 139:Upper 13a:Lower 13b:Upper 13c:Lower 13d:Upper 13e:Lower 13f:Upper 140:Lower 141:Upper 142:Lower " ++
  "143:Upper 144:Lower 145:Upper 146:Lower 147:Upper 148:Lower 14a:Upper 14b:Lower 14c:Upper 14d:Lower 14e:Upper 14f:Lower 150:Upper 151:Lower 152:Upper 153:Lower 154:Upper 155:Lower 156:Upper 157:Lower 158:Upper 159:Lower 15a:Upper 15b:Lower 15c:Upper 15d:Lower 15e:Upper 15f:Lower 160:Upper 161:Lower 162:Upper 163:Lower 164:Upper 165:Lower 166:Upper 167:Lower 168:Upper 169:Lower 16a:Upper 16b:Lower 16c:Upper 16d:Lower 16e:Upper 16f:Lower 170:Upper 171:Lower 172:Upper 173:Lower 174:Upper 175:Lower 176:Upper 177:Lower 178:Upper 17a:Lower 17b:Upper 17c:Lower 17d:Upper 17e:Lower 181:Upper 183:Lower 184:Upper 185:Lower 186:Upper 188:Lower 189:Upper 18c:Lower 18e:Upper 192:Lower 193:Upper 195:Lower 196:Upper 199:Lower 19c:Upper 19e:Lower 19f:Upper 1a1:Lower 1a2:Upper 1a3:Lower 1a4:Upper 1a5:Lower 1a6:Upper 1a8:Lower 1a9:Upper 1aa:Lower 1ac:Upper 1ad:Lower 1ae:Upper 1b0:Lower 1b1:Upper 1b4:Lower 1b5:Upper 1b6:Lower 1b7:Upper 1b9:Lower 1bb:OLetter 1bc:Upper 1bd:Lower 1c0:OLetter 1c4:Upper " ++
  "1c6:Lower 1c7:Upper 1c9:Lower 1ca:Upper 1cc:Lower 1cd:Upper 1ce:Lower 1cf:Upper 1d0:Lower 1d1:Upper 1d2:Lower 1d3:Upper 1d4:Lower 1d5:Upper 1d6:Lower 1d7:Upper 1d8:Lower 1d9:Upper 1da:Lower 1db:Upper 1dc:Lower 1de:Upper 1df:Lower 1e0:Upper 1e1:Lower 1e2:Upper 1e3:Lower 1e4:Upper 1e5:Lower 1e6:Upper 1e7:Lower 1e8:Upper 1e9:Lower 1ea:Upper 1eb:Lower 1ec:Upper 1ed:Lower 1ee:Upper 1ef:Lower 1f1:Upper 1f3:Lower 1f4:Upper 1f5:Lower 1f6:Upper 1f9:Lower 1fa:Upper 1fb:Lower 1fc:Upper 1fd:Lower 1fe:Upper 1ff:Lower 200:Upper 201:Lower 202:Upper 203:Lower 204:Upper 205:Lower 206:Upper 207:Lower 208:Upper 209:Lower 20a:Upper 20b:Lower 20c:Upper 20d:Lower 20e:Upper 20f:Lower 210:Upper 211:Lower 212:Upper 213:Lower 214:Upper 215:Lower 216:Upper 217:Lower 218:Upper 219:Lower 21a:Upper 21b:Lower 21c:Upper 21d:Lower 21e:Upper 21f:Lower 220:Upper 221:Lower 222:Upper 223:Lower 224:Upper 225:Lower 226:Upper 227:Lower 228:Upper 229:Lower 22a:Upper 22b:Lower 22c:Upper 22d:Lower 22e:Upper 22f:Lower 230:Upper " ++
  "231:Lower 232:Upper 233:Lower 23a:Upper 23c:Lower 23d:Upper 23f:Lower 241:Upper 242:Lower 243:Upper 247:Lower 248:Upper 249:Lower 24a:Upper 24b:Lower 24c:Upper 24d:Lower 24e:Upper 24f:Lower 294:OLetter 295:Lower 2b9:OLetter 2c0:Lower 2c2: 2c6:OLetter 2d2: 2e0:Lower 2e5: 2ec:OLetter 2ed: 2ee:OLetter 2ef: 300:Extend 370:Upper 371:Lower 372:Upper 373:Lower 374:OLetter 375: 376:Upper 377:Lower 378: 37a:Lower 37e:SContinue 37f:Upper 380: 386:Upper 387: 388:Upper 38b: 38c:Upper 38d: 38e:Upper 390:Lower 391:Upper 3a2: 3a3:Upper 3ac:Lower 3cf:Upper 3d0:Lower 3d2:Upper 3d5:Lower 3d8:Upper 3d9:Lower 3da:Upper 3db:Lower 3dc:Upper 3dd:Lower 3de:Upper 3df:Lower 3e0:Upper 3e1:Lower 3e2:Upper 3e3:Lower 3e4:Upper 3e5:Lower 3e6:Upper 3e7:Lower 3e8:Upper 3e9:Lower 3ea:Upper 3eb:Lower 3ec:Upper 3ed:Lower 3ee:Upper 3ef:Lower 3f4:Upper 3f5:Lower 3f6: 3f7:Upper 3f8:Lower 3f9:Upper 3fb:Lower 3fd:Upper 430:Lower 460:Upper 461:Lower 462:Upper 463:Lower 464:Upper 465:Lower 466:Upper 467:Lower 468:Upper " ++
  "469:Lower 46a:Upper 46b:Lower 46c:Upper 46d:Lower 46e:Upper 46f:Lower 470:Upper 471:Lower 472:Upper 473:Lower 474:Upper 475:Lower 476:Upper 477:Lower 478:Upper 479:Lower 47a:Upper 47b:Lower 47c:Upper 47d:Lower 47e:Upper 47f:Lower 480:Upper 481:Lower 482: 483:Extend 48a:Upper 48b:Lower 48c:Upper 48d:Lower 48e:Upper 48f:Lower 490:Upper 491:Lower 492:Upper 493:Lower 494:Upper 495:Lower 496:Upper 497:Lower 498:Upper 499:Lower 49a:Upper 49b:Lower 49c:Upper 49d:Lower 49e:Upper 49f:Lower 4a0:Upper 4a1:Lower 4a2:Upper 4a3:Lower 4a4:Upper 4a5:Lower 4a6:Upper 4a7:Lower 4a8:Upper 4a9:Lower 4aa:Upper 4ab:Lower 4ac:Upper 4ad:Lower 4ae:Upper 4af:Lower 4b0:Upper 4b1:Lower 4b2:Upper 4b3:Lower 4b4:Upper 4b5:Lower 4b6:Upper 4b7:Lower 4b8:Upper 4b9:Lower 4ba:Upper 4bb:Lower 4bc:Upper 4bd:Lower 4be:Upper 4bf:Lower 4c0:Upper 4c2:Lower 4c3:Upper 4c4:Lower 4c5:Upper 4c6:Lower 4c7:Upper 4c8:Lower 4c9:Upper 4ca:Lower 4cb:Upper 4cc:Lower 4cd:Upper 4ce:Lower 4d0:Upper 4d1:Lower 4d2:Upper 4d3:Lower 4d4:Upper " ++
  "4d5:Lower 4d6:Upper 4d7:Lower 4d8:Upper 4d9:Lower 4da:Upper 4db:Lower 4dc:Upper 4dd:Lower 4de:Upper 4df:Lower 4e0:Upper 4e1:Lower 4e2:Upper 4e3:Lower 4e4:Upper 4e5:Lower 4e6:Upper 4e7:Lower 4e8:Upper 4e9:Lower 4ea:Upper 4eb:Lower 4ec:Upper 4ed:Lower 4ee:Upper 4ef:Lower 4f0:Upper 4f1:Lower 4f2:Upper 4f3:Lower 4f4:Upper 4f5:Lower 4f6:Upper 4f7:Lower 4f8:Upper 4f9:Lower 4fa:Upper 4fb:Lower 4fc:Upper 4fd:Lower 4fe:Upper 4ff:Lower 500:Upper 501:Lower 502:Upper 503:Lower 504:Upper 505:Lower 506:Upper 507:Lower 508:Upper 509:Lower 50a:Upper 50b:Lower 50c:Upper 50d:Lower 50e:Upper 50f:Lower 510:Upper 511:Lower 512:Upper 513:Lower 514:Upper 515:Lower 516:Upper 517:Lower 518:Upper 519:Lower 51a:Upper 51b:Lower 51c:Upper 51d:Lower 51e:Upper 51f:Lower 520:Upper 521:Lower 522:Upper 523:Lower 524:Upper 525:Lower 526:Upper 527:Lower 528:Upper 529:Lower 52a:Upper 52b:Lower 52c:Upper 52d:Lower 52e:Upper 52f:Lower 530: 531:Upper 557: 559:OLetter 55a: 55d:SContinue 55e: 560:Lower 589:STerm 58a: " ++
  "591:Extend 5be: 5bf:Extend 5c0: 5c1:Extend 5c3: 5c4:Extend 5c6: 5c7:Extend 5c8: 5d0:OLetter 5eb: 5ef:OLetter 5f4: 600:Format 606: 60c:SContinue 60e: 610:Extend 61b: 61c:Format 61d:STerm 620:OLetter 64b:Extend 660:Numeric 66a: 66b:Numeric 66d: 66e:OLetter 670:Extend 671:OLetter 6d4:STerm 6d5:OLetter 6d6:Extend 6dd:Format 6de: 6df:Extend 6e5:OLetter 6e7:Extend 6e9: 6ea:Extend 6ee:OLetter 6f0:Numeric 6fa:OLetter 6fd: 6ff:OLetter 700:STerm 703: 70f:Format 710:OLetter 711:Extend 712:OLetter 730:Extend 74b: 74d:OLetter 7a6:Extend 7b1:OLetter 7b2: 7c0:Numeric 7ca:OLetter 7eb:Extend 7f4:OLetter 7f6: 7f8:SContinue 7f9:STerm 7fa:OLetter 7fb: 7fd:Extend 7fe: 800:OLetter 816:Extend 81a:OLetter 81b:Extend 824:OLetter 825:Extend 828:OLetter 829:Extend 82e: 837:STerm 838: 839:STerm 83a: 83d:STerm 83f: 840:OLetter 859:Extend 85c: 860:OLetter 86b: 870:OLetter 888: 889:OLetter 88f: 890:Format 892: 897:Extend 8a0:OLetter 8ca:Extend 8e2:Format 8e3:Extend 904:OLetter 93a:Extend 93d:OLetter 93e:Extend " ++
  "950:OLetter 951:Extend 958:OLetter 962:Extend 964:STerm 966:Numeric 970: 971:OLetter 981:Extend 984: 985:OLetter 98d: 98f:OLetter 991: 993:OLetter 9a9: 9aa:OLetter 9b1: 9b2:OLetter 9b3: 9b6:OLetter 9ba: 9bc:Extend 9bd:OLetter 9be:Extend 9c5: 9c7:Extend 9c9: 9cb:Extend 9ce:OLetter 9cf: 9d7:Extend 9d8: 9dc:OLetter 9de: 9df:OLetter 9e2:Extend 9e4: 9e6:Numeric 9f0:OLetter 9f2: 9fc:OLetter 9fd: 9fe:Extend 9ff: a01:Extend a04: a05:OLetter a0b: a0f:OLetter a11: a13:OLetter a29: a2a:OLetter a31: a32:OLetter a34: a35:OLetter a37: a38:OLetter a3a: a3c:Extend a3d: a3e:Extend a43: a47:Extend a49: a4b:Extend a4e: a51:Extend a52: a59:OLetter a5d: a5e:OLetter a5f: a66:Numeric a70:Extend a72:OLetter a75:Extend a76: a81:Extend a84: a85:OLetter a8e: a8f:OLetter a92: a93:OLetter aa9: aaa:OLetter ab1: ab2:OLetter ab4: ab5:OLetter aba: abc:Extend abd:OLetter abe:Extend ac6: ac7:Extend aca: acb:Extend ace: ad0:OLetter ad1: ae0:OLetter ae2:Extend ae4: ae6:Numeric af0: af9:OLetter afa:Extend b00: b01:Extend " ++
  "b04: b05:OLetter b0d: b0f:OLetter b11: b13:OLetter b29: b2a:OLetter b31: b32:OLetter b34: b35:OLetter b3a: b3c:Extend b3d:OLetter b3e:Extend b45: b47:Extend b49: b4b:Extend b4e: b55:Extend b58: b5c:OLetter b5e: b5f:OLetter b62:Extend b64: b66:Numeric b70: b71:OLetter b72: b82:Extend b83:OLetter b84: b85:OLetter b8b: b8e:OLetter b91: b92:OLetter b96: b99:OLetter b9b: b9c:OLetter b9d: b9e:OLetter ba0: ba3:OLetter ba5: ba8:OLetter bab: bae:OLetter bba: bbe:Extend bc3: bc6:Extend bc9: bca:Extend bce: bd0:OLetter bd1: bd7:Extend bd8: be6:Numeric bf0: c00:Extend c05:OLetter c0d: c0e:OLetter c11: c12:OLetter c29: c2a:OLetter c3a: c3c:Extend c3d:OLetter c3e:Extend c45: c46:Extend c49: c4a:Extend c4e: c55:Extend c57: c58:OLetter c5b: c5d:OLetter c5e: c60:OLetter c62:Extend c64: c66:Numeric c70: c80:OLetter c81:Extend c84: c85:OLetter c8d: c8e:OLetter c91: c92:OLetter ca9: caa:OLetter cb4: cb5:OLetter cba: cbc:Extend cbd:OLetter cbe:Extend cc5: cc6:Extend cc9: cca:Extend cce: cd5:Extend cd7: " ++
  "cdd:OLetter cdf: ce0:OLetter ce2:Extend ce4: ce6:Numeric cf0: cf1:OLetter cf3:Extend cf4: d00:Extend d04:OLetter d0d: d0e:OLetter d11: d12:OLetter d3b:Extend d3d:OLetter d3e:Extend d45: d46:Extend d49: d4a:Extend d4e:OLetter d4f: d54:OLetter d57:Extend d58: d5f:OLetter d62:Extend d64: d66:Numeric d70: d7a:OLetter d80: d81:Extend d84: d85:OLetter d97: d9a:OLetter db2: db3:OLetter dbc: dbd:OLetter dbe: dc0:OLetter dc7: dca:Extend dcb: dcf:Extend dd5: dd6:Extend dd7: dd8:Extend de0: de6:Numeric df0: df2:Extend df4: e01:OLetter e31:Extend e32:OLetter e34:Extend e3b: e40:OLetter e47:Extend e4f: e50:Numeric e5a: e81:OLetter e83: e84:OLetter e85: e86:OLetter e8b: e8c:OLetter ea4: ea5:OLetter ea6: ea7:OLetter eb1:Extend eb2:OLetter eb4:Extend ebd:OLetter ebe: ec0:OLetter ec5: ec6:OLetter ec7: ec8:Extend ecf: ed0:Numeric eda: edc:OLetter ee0: f00:OLetter f01: f18:Extend f1a: f20:Numeric f2a: f35:Extend f36: f37:Extend f38: f39:Extend f3a:Close f3e:Extend f40:OLetter f48: f49:OLetter f6d: " ++
  "f71:Extend f85: f86:Extend f88:OLetter f8d:Extend f98: f99:Extend fbd: fc6:Extend fc7: 1000:OLetter 102b:Extend 103f:OLetter 1040:Numeric 104a:STerm 104c: 1050:OLetter 1056:Extend 105a:OLetter 105e:Extend 1061:OLetter 1062:Extend 1065:OLetter 1067:Extend 106e:OLetter 1071:Extend 1075:OLetter 1082:Extend 108e:OLetter 108f:Extend 1090:Numeric 109a:Extend 109e: 10a0:Upper 10c6: 10c7:Upper 10c8: 10cd:Upper 10ce: 10d0:OLetter 10fb: 10fc:Lower 10fd:OLetter 1249: 124a:OLetter 124e: 1250:OLetter 1257: 1258:OLetter 1259: 125a:OLetter 125e: 1260:OLetter 1289: 128a:OLetter 128e: 1290:OLetter 12b1: 12b2:OLetter 12b6: 12b8:OLetter 12bf: 12c0:OLetter 12c1: 12c2:OLetter 12c6: 12c8:OLetter 12d7: 12d8:OLetter 1311: 1312:OLetter 1316: 1318:OLetter 135b: 135d:Extend 1360: 1362:STerm 1363: 1367:STerm 1369: 1380:OLetter 1390: 13a0:Upper 13f6: 13f8:Lower 13fe: 1401:OLetter 166d: 166e:STerm 166f:OLetter 1680:Sp 1681:OLetter 169b:Close 169d: 16a0:OLetter 16eb: 16ee:OLetter 16f9: 1700:OLetter 1712:Extend 1716: " ++
  "171f:OLetter 1732:Extend 1735:STerm 1737: 1740:OLetter 1752:Extend 1754: 1760:OLetter 176d: 176e:OLetter 1771: 1772:Extend 1774: 1780:OLetter 17b4:Extend 17d4: 17d7:OLetter 17d8: 17dc:OLetter 17dd:Extend 17de: 17e0:Numeric 17ea: 1802:SContinue 1803:STerm 1804: 1808:SContinue 1809:STerm 180a: 180b:Extend 180e:Format 180f:Extend 1810:Numeric 181a: 1820:OLetter 1879: 1880:OLetter 1885:Extend 1887:OLetter 18a9:Extend 18aa:OLetter 18ab: 18b0:OLetter 18f6: 1900:OLetter 191f: 1920:Extend 192c: 1930:Extend 193c: 1944:STerm 1946:Numeric 1950:OLetter 196e: 1970:OLetter 1975: 1980:OLetter 19ac: 19b0:OLetter 19ca: 19d0:Numeric 19da: 1a00:OLetter 1a17:Extend 1a1c: 1a20:OLetter 1a55:Extend 1a5f: 1a60:Extend 1a7d: 1a7f:Extend 1a80:Numeric 1a8a: 1a90:Numeric 1a9a: 1aa7:OLetter 1aa8:STerm 1aac: 1ab0:Extend 1acf: 1b00:Extend 1b05:OLetter 1b34:Extend 1b45:OLetter 1b4d: 1b4e:STerm 1b50:Numeric 1b5a:STerm 1b5c: 1b5e:STerm 1b60: 1b6b:Extend 1b74: 1b7d:STerm 1b80:Extend 1b83:OLetter 1ba1:Extend 1bae:OLetter " ++
  "1bb0:Numeric 1bba:OLetter 1be6:Extend 1bf4: 1c00:OLetter 1c24:Extend 1c38: 1c3b:STerm 1c3d: 1c40:Numeric 1c4a: 1c4d:OLetter 1c50:Numeric 1c5a:OLetter 1c7e:STerm 1c80:Lower 1c89:Upper 1c8a:Lower 1c8b: 1c90:OLetter 1cbb: 1cbd:OLetter 1cc0: 1cd0:Extend 1cd3: 1cd4:Extend 1ce9:OLetter 1ced:Extend 1cee:OLetter 1cf4:Extend 1cf5:OLetter 1cf7:Extend 1cfa:OLetter 1cfb: 1d00:Lower 1dc0:Extend 1e00:Upper 1e01:Lower 1e02:Upper 1e03:Lower 1e04:Upper 1e05:Lower 1e06:Upper 1e07:Lower 1e08:Upper 1e09:Lower 1e0a:Upper 1e0b:Lower 1e0c:Upper 1e0d:Lower 1e0e:Upper 1e0f:Lower 1e10:Upper 1e11:Lower 1e12:Upper 1e13:Lower 1e14:Upper 1e15:Lower 1e16:Upper 1e17:Lower 1e18:Upper 1e19:Lower 1e1a:Upper 1e1b:Lower 1e1c:Upper 1e1d:Lower 1e1e:Upper 1e1f:Lower 1e20:Upper 1e21:Lower 1e22:Upper 1e23:Lower 1e24:Upper 1e25:Lower 1e26:Upper 1e27:Lower 1e28:Upper 1e29:Lower 1e2a:Upper 1e2b:Lower 1e2c:Upper 1e2d:Lower 1e2e:Upper 1e2f:Lower 1e30:Upper 1e31:Lower 1e32:Upper 1e33:Lower 1e34:Upper 1e35:Lower 1e36:Upper 1e37:Lower " ++
  "1e38:Upper 1e39:Lower 1e3a:Upper 1e3b:Lower 1e3c:Upper 1e3d:Lower 1e3e:Upper 1e3f:Lower 1e40:Upper 1e41:Lower 1e42:Upper 1e43:Lower 1e44:Upper 1e45:Lower 1e46:Upper 1e47:Lower 1e48:Upper 1e49:Lower 1e4a:Upper 1e4b:Lower 1e4c:Upper 1e4d:Lower 1e4e:Upper 1e4f:Lower 1e50:Upper 1e51:Lower 1e52:Upper 1e53:Lower 1e54:Upper 1e55:Lower 1e56:Upper 1e57:Lower 1e58:Upper 1e59:Lower 1e5a:Upper 1e5b:Lower 1e5c:Upper 1e5d:Lower 1e5e:Upper 1e5f:Lower 1e60:Upper 1e61:Lower 1e62:Upper 1e63:Lower 1e64:Upper 1e65:Lower 1e66:Upper 1e67:Lower 1e68:Upper 1e69:Lower 1e6a:Upper 1e6b:Lower 1e6c:Upper 1e6d:Lower 1e6e:Upper 1e6f:Lower 1e70:Upper 1e71:Lower 1e72:Upper 1e73:Lower 1e74:Upper 1e75:Lower 1e76:Upper 1e77:Lower 1e78:Upper 1e79:Lower 1e7a:Upper 1e7b:Lower 1e7c:Upper 1e7d:Lower 1e7e:Upper 1e7f:Lower 1e80:Upper 1e81:Lower 1e82:Upper 1e83:Lower 1e84:Upper 1e85:Lower 1e86:Upper 1e87:Lower 1e88:Upper 1e89:Lower 1e8a:Upper 1e8b:Lower 1e8c:Upper 1e8d:Lower 1e8e:Upper 1e8f:Lower 1e90:Upper 1e91:Lower 1e92:Upper " ++
  "1e93:Lower 1e94:Upper 1e95:Lower 1e9e:Upper 1e9f:Lower 1ea0:Upper 1ea1:Lower 1ea2:Upper 1ea3:Lower 1ea4:Upper 1ea5:Lower 1ea6:Upper 1ea7:Lower 1ea8:Upper 1ea9:Lower 1eaa:Upper 1eab:Lower 1eac:Upper 1ead:Lower 1eae:Upper 1eaf:Lower 1eb0:Upper 1eb1:Lower 1eb2:Upper 1eb3:Lower 1eb4:Upper 1eb5:Lower 1eb6:Upper 1eb7:Lower 1eb8:Upper 1eb9:Lower 1eba:Upper 1ebb:Lower 1ebc:Upper 1ebd:Lower 1ebe:Upper 1ebf:Lower 1ec0:Upper 1ec1:Lower 1ec2:Upper 1ec3:Lower 1ec4:Upper 1ec5:Lower 1ec6:Upper 1ec7:Lower 1ec8:Upper 1ec9:Lower 1eca:Upper 1ecb:Lower 1ecc:Upper 1ecd:Lower 1ece:Upper 1ecf:Lower 1ed0:Upper 1ed1:Lower 1ed2:Upper 1ed3:Lower 1ed4:Upper 1ed5:Lower 1ed6:Upper 1ed7:Lower 1ed8:Upper 1ed9:Lower 1eda:Upper 1edb:Lower 1edc:Upper 1edd:Lower 1ede:Upper 1edf:Lower 1ee0:Upper 1ee1:Lower 1ee2:Upper 1ee3:Lower 1ee4:Upper 1ee5:Lower 1ee6:Upper 1ee7:Lower 1ee8:Upper 1ee9:Lower 1eea:Upper 1eeb:Lower 1eec:Upper 1eed:Lower 1eee:Upper 1eef:Lower 1ef0:Upper 1ef1:Lower 1ef2:Upper 1ef3:Lower 1ef4:Upper 1ef5:Lower " ++
  "1ef6:Upper 1ef7:Lower 1ef8:Upper 1ef9:Lower 1efa:Upper 1efb:Lower 1efc:Upper 1efd:Lower 1efe:Upper 1eff:Lower 1f08:Upper 1f10:Lower 1f16: 1f18:Upper 1f1e: 1f20:Lower 1f28:Upper 1f30:Lower 1f38:Upper 1f40:Lower 1f46: 1f48:Upper 1f4e: 1f50:Lower 1f58: 1f59:Upper 1f5a: 1f5b:Upper 1f5c: 1f5d:Upper 1f5e: 1f5f:Upper 1f60:Lower 1f68:Upper 1f70:Lower 1f7e: 1f80:Lower 1f88:Upper 1f90:Lower 1f98:Upper 1fa0:Lower 1fa8:Upper 1fb0:Lower 1fb5: 1fb6:Lower 1fb8:Upper 1fbd: 1fbe:Lower 1fbf: 1fc2:Lower 1fc5: 1fc6:Lower 1fc8:Upper 1fcd: 1fd0:Lower 1fd4: 1fd6:Lower 1fd8:Upper 1fdc: 1fe0:Lower 1fe8:Upper 1fed: 1ff2:Lower 1ff5: 1ff6:Lower 1ff8:Upper 1ffd: 2000:Sp 200b:Format 200c:Extend 200e:Format 2010: 2013:SContinue 2015: 2018:Close 2020: 2024:ATerm 2025: 2028:Sep 202a:Format 202f:Sp 2030: 2039:Close 203b: 203c:STerm 203e: 2045:Close 2047:STerm 204a: 205f:Sp 2060:Format 2065: 2066:Format 2070: 2071:Lower 2072: 207d:Close 207f:Lower 2080: 208d:Close 208f: 2090:Lower 209d: 20d0:Extend 20f1: 2102:Upper " ++
  "2103: 2107:Upper 2108: 210a:Lower 210b:Upper 210e:Lower 2110:Upper 2113:Lower 2114: 2115:Upper 2116: 2119:Upper 211e: 2124:Upper 2125: 2126:Upper 2127: 2128:Upper 2129: 212a:Upper 212e: 212f:Lower 2130:Upper 2134:Lower 2135:OLetter 2139:Lower 213a: 213c:Lower 213e:Upper 2140: 2145:Upper 2146:Lower 214a: 214e:Lower 214f: 2160:Upper 2170:Lower 2180:OLetter 2183:Upper 2184:Lower 2185:OLetter 2189: 2308:Close 230c: 2329:Close 232b: 24b6:Upper 24d0:Lower 24ea: 275b:Close 2761: 2768:Close 2776: 27c5:Close 27c7: 27e6:Close 27f0: 2983:Close 2999: 29d8:Close 29dc: 29fc:Close 29fe: 2c00:Upper 2c30:Lower 2c60:Upper 2c61:Lower 2c62:Upper 2c65:Lower 2c67:Upper 2c68:Lower 2c69:Upper 2c6a:Lower 2c6b:Upper 2c6c:Lower 2c6d:Upper 2c71:Lower 2c72:Upper 2c73:Lower 2c75:Upper 2c76:Lower 2c7e:Upper 2c81:Lower 2c82:Upper 2c83:Lower 2c84:Upper 2c85:Lower 2c86:Upper 2c87:Lower 2c88:Upper 2c89:Lower 2c8a:Upper 2c8b:Lower 2c8c:Upper 2c8d:Lower 2c8e:Upper 2c8f:Lower 2c90:Upper 2c91:Lower 2c92:Upper 2c93:Lower " ++
  "2c94:Upper 2c95:Lower 2c96:Upper 2c97:Lower 2c98:Upper 2c99:Lower 2c9a:Upper 2c9b:Lower 2c9c:Upper 2c9d:Lower 2c9e:Upper 2c9f:Lower 2ca0:Upper 2ca1:Lower 2ca2:Upper 2ca3:Lower 2ca4:Upper 2ca5:Lower 2ca6:Upper 2ca7:Lower 2ca8:Upper 2ca9:Lower 2caa:Upper 2cab:Lower 2cac:Upper 2cad:Lower 2cae:Upper 2caf:Lower 2cb0:Upper 2cb1:Lower 2cb2:Upper 2cb3:Lower 2cb4:Upper 2cb5:Lower 2cb6:Upper 2cb7:Lower 2cb8:Upper 2cb9:Lower 2cba:Upper 2cbb:Lower 2cbc:Upper 2cbd:Lower 2cbe:Upper 2cbf:Lower 2cc0:Upper 2cc1:Lower 2cc2:Upper 2cc3:Lower 2cc4:Upper 2cc5:Lower 2cc6:Upper 2cc7:Lower 2cc8:Upper 2cc9:Lower 2cca:Upper 2ccb:Lower 2ccc:Upper 2ccd:Lower 2cce:Upper 2ccf:Lower 2cd0:Upper 2cd1:Lower 2cd2:Upper 2cd3:Lower 2cd4:Upper 2cd5:Lower 2cd6:Upper 2cd7:Lower 2cd8:Upper 2cd9:Lower 2cda:Upper 2cdb:Lower 2cdc:Upper 2cdd:Lower 2cde:Upper 2cdf:Lower 2ce0:Upper 2ce1:Lower 2ce2:Upper 2ce3:Lower 2ce5: 2ceb:Upper 2cec:Lower 2ced:Upper 2cee:Lower 2cef:Extend 2cf2:Upper 2cf3:Lower 2cf4: 2d00:Lower 2d26: 2d27:Lower " ++
  "2d28: 2d2d:Lower 2d2e: 2d30:OLetter 2d68: 2d6f:OLetter 2d70: 2d7f:Extend 2d80:OLetter 2d97: 2da0:OLetter 2da7: 2da8:OLetter 2daf: 2db0:OLetter 2db7: 2db8:OLetter 2dbf: 2dc0:OLetter 2dc7: 2dc8:OLetter 2dcf: 2dd0:OLetter 2dd7: 2dd8:OLetter 2ddf: 2de0:Extend 2e00:Close 2e0e: 2e1c:Close 2e1e: 2e20:Close 2e2a: 2e2e:STerm 2e2f:OLetter 2e30: 2e3c:STerm 2e3d: 2e42:Close 2e43: 2e53:STerm 2e55:Close 2e5d: 3000:Sp 3001:SContinue 3002:STerm 3003: 3005:OLetter 3008:Close 3012: 3014:Close 301c: 301d:Close 3020: 3021:OLetter 302a:Extend 3030: 3031:OLetter 3036: 3038:OLetter 303d: 3041:OLetter 3097: 3099:Extend 309b: 309d:OLetter 30a0: 30a1:OLetter 30fb: 30fc:OLetter 3100: 3105:OLetter 3130: 3131:OLetter 318f: 31a0:OLetter 31c0: 31f0:OLetter 3200: 3400:OLetter 4dc0: 4e00:OLetter a48d: a4d0:OLetter a4fe: a4ff:STerm a500:OLetter a60d: a60e:STerm a610:OLetter a620:Numeric a62a:OLetter a62c: a640:Upper a641:Lower a642:Upper a643:Lower a644:Upper a645:Lower a646:Upper a647:Lower a648:Upper a649:Lower " ++
  "a64a:Upper a64b:Lower a64c:Upper a64d:Lower a64e:Upper a64f:Lower a650:Upper a651:Lower a652:Upper a653:Lower a654:Upper a655:Lower a656:Upper a657:Lower a658:Upper a659:Lower a65a:Upper a65b:Lower a65c:Upper a65d:Lower a65e:Upper a65f:Lower a660:Upper a661:Lower a662:Upper a663:Lower a664:Upper a665:Lower a666:Upper a667:Lower a668:Upper a669:Lower a66a:Upper a66b:Lower a66c:Upper a66d:Lower a66e:OLetter a66f:Extend a673: a674:Extend a67e: a67f:OLetter a680:Upper a681:Lower a682:Upper a683:Lower a684:Upper a685:Lower a686:Upper a687:Lower a688:Upper a689:Lower a68a:Upper a68b:Lower a68c:Upper a68d:Lower a68e:Upper a68f:Lower a690:Upper a691:Lower a692:Upper a693:Lower a694:Upper a695:Lower a696:Upper a697:Lower a698:Upper a699:Lower a69a:Upper a69b:Lower a69e:Extend a6a0:OLetter a6f0:Extend a6f2: a6f3:STerm a6f4: a6f7:STerm a6f8: a717:OLetter a720: a722:Upper a723:Lower a724:Upper a725:Lower a726:Upper a727:Lower a728:Upper a729:Lower a72a:Upper a72b:Lower a72c:Upper a72d:Lower " ++
  "a72e:Upper a72f:Lower a732:Upper a733:Lower a734:Upper a735:Lower a736:Upper a737:Lower a738:Upper a739:Lower a73a:Upper a73b:Lower a73c:Upper a73d:Lower a73e:Upper a73f:Lower a740:Upper a741:Lower a742:Upper a743:Lower a744:Upper a745:Lower a746:Upper a747:Lower a748:Upper a749:Lower a74a:Upper a74b:Lower a74c:Upper a74d:Lower a74e:Upper a74f:Lower a750:Upper a751:Lower a752:Upper a753:Lower a754:Upper a755:Lower a756:Upper a757:Lower a758:Upper a759:Lower a75a:Upper a75b:Lower a75c:Upper a75d:Lower a75e:Upper a75f:Lower a760:Upper a761:Lower a762:Upper a763:Lower a764:Upper a765:Lower a766:Upper a767:Lower a768:Upper a769:Lower a76a:Upper a76b:Lower a76c:Upper a76d:Lower a76e:Upper a76f:Lower a779:Upper a77a:Lower a77b:Upper a77c:Lower a77d:Upper a77f:Lower a780:Upper a781:Lower a782:Upper a783:Lower a784:Upper a785:Lower a786:Upper a787:Lower a788:OLetter a789: a78b:Upper a78c:Lower a78d:Upper a78e:Lower a78f:OLetter a790:Upper a791:Lower a792:Upper a793:Lower a796:Upper a797:Lower " ++
  "a798:Upper a799:Lower a79a:Upper a79b:Lower a79c:Upper a79d:Lower a79e:Upper a79f:Lower a7a0:Upper a7a1:Lower a7a2:Upper a7a3:Lower a7a4:Upper a7a5:Lower a7a6:Upper a7a7:Lower a7a8:Upper a7a9:Lower a7aa:Upper a7af:Lower a7b0:Upper a7b5:Lower a7b6:Upper a7b7:Lower a7b8:Upper a7b9:Lower a7ba:Upper a7bb:Lower a7bc:Upper a7bd:Lower a7be:Upper a7bf:Lower a7c0:Upper a7c1:Lower a7c2:Upper a7c3:Lower a7c4:Upper a7c8:Lower a7c9:Upper a7ca:Lower a7cb:Upper a7cd:Lower a7ce: a7d0:Upper a7d1:Lower a7d2: a7d3:Lower a7d4: a7d5:Lower a7d6:Upper a7d7:Lower a7d8:Upper a7d9:Lower a7da:Upper a7db:Lower a7dc:Upper a7dd: a7f2:Lower a7f5:Upper a7f6:Lower a7f7:OLetter a7f8:Lower a7fb:OLetter a802:Extend a803:OLetter a806:Extend a807:OLetter a80b:Extend a80c:OLetter a823:Extend a828: a82c:Extend a82d: a840:OLetter a874: a876:STerm a878: a880:Extend a882:OLetter a8b4:Extend a8c6: a8ce:STerm a8d0:Numeric a8da: a8e0:Extend a8f2:OLetter a8f8: a8fb:OLetter a8fc: a8fd:OLetter a8ff:Extend a900:Numeric a90a:OLetter " ++
  "a926:Extend a92e: a92f:STerm a930:OLetter a947:Extend a954: a960:OLetter a97d: a980:Extend a984:OLetter a9b3:Extend a9c1: a9c8:STerm a9ca: a9cf:OLetter a9d0:Numeric a9da: a9e0:OLetter a9e5:Extend a9e6:OLetter a9f0:Numeric a9fa:OLetter a9ff: aa00:OLetter aa29:Extend aa37: aa40:OLetter aa43:Extend aa44:OLetter aa4c:Extend aa4e: aa50:Numeric aa5a: aa5d:STerm aa60:OLetter aa77: aa7a:OLetter aa7b:Extend aa7e:OLetter aab0:Extend aab1:OLetter aab2:Extend aab5:OLetter aab7:Extend aab9:OLetter aabe:Extend aac0:OLetter aac1:Extend aac2:OLetter aac3: aadb:OLetter aade: aae0:OLetter aaeb:Extend aaf0:STerm aaf2:OLetter aaf5:Extend aaf7: ab01:OLetter ab07: ab09:OLetter ab0f: ab11:OLetter ab17: ab20:OLetter ab27: ab28:OLetter ab2f: ab30:Lower ab5b: ab5c:Lower ab6a: ab70:Lower abc0:OLetter abe3:Extend abeb:STerm abec:Extend abee: abf0:Numeric abfa: ac00:OLetter d7a4: d7b0:OLetter d7c7: d7cb:OLetter d7fc: f900:OLetter fa6e: fa70:OLetter fada: fb00:Lower fb07: fb13:Lower fb18: fb1d:OLetter fb1e:Extend " ++
  "fb1f:OLetter fb29: fb2a:OLetter fb37: fb38:OLetter fb3d: fb3e:OLetter fb3f: fb40:OLetter fb42: fb43:OLetter fb45: fb46:OLetter fbb2: fbd3:OLetter fd3e:Close fd40: fd50:OLetter fd90: fd92:OLetter fdc8: fdf0:OLetter fdfc: fe00:Extend fe10:SContinue fe12: fe13:SContinue fe15: fe17:Close fe19: fe20:Extend fe30: fe31:SContinue fe33: fe35:Close fe45: fe47:Close fe49: fe50:SContinue fe52:ATerm fe53: fe54:SContinue fe56:STerm fe58:SContinue fe59:Close fe5f: fe63:SContinue fe64: fe70:OLetter fe75: fe76:OLetter fefd: feff:Format ff00: ff01:STerm ff02: ff08:Close ff0a: ff0c:SContinue ff0e:ATerm ff0f: ff10:Numeric ff1a:SContinue ff1c: ff1f:STerm ff20: ff21:Upper ff3b:Close ff3c: ff3d:Close ff3e: ff41:Lower ff5b:Close ff5c: ff5d:Close ff5e: ff5f:Close ff61:STerm ff62:Close ff64:SContinue ff65: ff66:OLetter ff9e:Extend ffa0:OLetter ffbf: ffc2:OLetter ffc8: ffca:OLetter ffd0: ffd2:OLetter ffd8: ffda:OLetter ffdd: fff9:Format fffc: 10000:OLetter 1000c: 1000d:OLetter 10027: 10028:OLetter 1003b: " ++
  "1003c:OLetter 1003e: 1003f:OLetter 1004e: 10050:OLetter 1005e: 10080:OLetter 100fb: 10140:OLetter 10175: 101fd:Extend 101fe: 10280:OLetter 1029d: 102a0:OLetter 102d1: 102e0:Extend 102e1: 10300:OLetter 10320: 1032d:OLetter 1034b: 10350:OLetter 10376:Extend 1037b: 10380:OLetter 1039e: 103a0:OLetter 103c4: 103c8:OLetter 103d0: 103d1:OLetter 103d6: 10400:Upper 10428:Lower 10450:OLetter 1049e: 104a0:Numeric 104aa: 104b0:Upper 104d4: 104d8:Lower 104fc: 10500:OLetter 10528: 10530:OLetter 10564: 10570:Upper 1057b: 1057c:Upper 1058b: 1058c:Upper 10593: 10594:Upper 10596: 10597:Lower 105a2: 105a3:Lower 105b2: 105b3:Lower 105ba: 105bb:Lower 105bd: 105c0:OLetter 105f4: 10600:OLetter 10737: 10740:OLetter 10756: 10760:OLetter 10768: 10780:Lower 10781:OLetter 10783:Lower 10786: 10787:Lower 107b1: 107b2:Lower 107bb: 10800:OLetter 10806: 10808:OLetter 10809: 1080a:OLetter 10836: 10837:OLetter 10839: 1083c:OLetter 1083d: 1083f:OLetter 10856: 10860:OLetter 10877: 10880:OLetter 1089f: 108e0:OLetter 108f3: " ++
  "108f4:OLetter 108f6: 10900:OLetter 10916: 10920:OLetter 1093a: 10980:OLetter 109b8: 109be:OLetter 109c0: 10a00:OLetter 10a01:Extend 10a04: 10a05:Extend 10a07: 10a0c:Extend 10a10:OLetter 10a14: 10a15:OLetter 10a18: 10a19:OLetter 10a36: 10a38:Extend 10a3b: 10a3f:Extend 10a40: 10a56:STerm 10a58: 10a60:OLetter 10a7d: 10a80:OLetter 10a9d: 10ac0:OLetter 10ac8: 10ac9:OLetter 10ae5:Extend 10ae7: 10b00:OLetter 10b36: 10b40:OLetter 10b56: 10b60:OLetter 10b73: 10b80:OLetter 10b92: 10c00:OLetter 10c49: 10c80:Upper 10cb3: 10cc0:Lower 10cf3: 10d00:OLetter 10d24:Extend 10d28: 10d30:Numeric 10d3a: 10d40:Numeric 10d4a:OLetter 10d50:Upper 10d66: 10d69:Extend 10d6e: 10d6f:OLetter 10d70:Lower 10d86: 10e80:OLetter 10eaa: 10eab:Extend 10ead: 10eb0:OLetter 10eb2: 10ec2:OLetter 10ec5: 10efc:Extend 10f00:OLetter 10f1d: 10f27:OLetter 10f28: 10f30:OLetter 10f46:Extend 10f51: 10f55:STerm 10f5a: 10f70:OLetter 10f82:Extend 10f86:STerm 10f8a: 10fb0:OLetter 10fc5: 10fe0:OLetter 10ff7: 11000:Extend 11003:OLetter " ++
  "11038:Extend 11047:STerm 11049: 11066:Numeric 11070:Extend 11071:OLetter 11073:Extend 11075:OLetter 11076: 1107f:Extend 11083:OLetter 110b0:Extend 110bb: 110bd:Format 110be:STerm 110c2:Extend 110c3: 110cd:Format 110ce: 110d0:OLetter 110e9: 110f0:Numeric 110fa: 11100:Extend 11103:OLetter 11127:Extend 11135: 11136:Numeric 11140: 11141:STerm 11144:OLetter 11145:Extend 11147:OLetter 11148: 11150:OLetter 11173:Extend 11174: 11176:OLetter 11177: 11180:Extend 11183:OLetter 111b3:Extend 111c1:OLetter 111c5:STerm 111c7: 111c9:Extend 111cd:STerm 111ce:Extend 111d0:Numeric 111da:OLetter 111db: 111dc:OLetter 111dd: 111de:STerm 111e0: 11200:OLetter 11212: 11213:OLetter 1122c:Extend 11238:STerm 1123a: 1123b:STerm 1123d: 1123e:Extend 1123f:OLetter 11241:Extend 11242: 11280:OLetter 11287: 11288:OLetter 11289: 1128a:OLetter 1128e: 1128f:OLetter 1129e: 1129f:OLetter 112a9:STerm 112aa: 112b0:OLetter 112df:Extend 112eb: 112f0:Numeric 112fa: 11300:Extend 11304: 11305:OLetter 1130d: 1130f:OLetter 11311: " ++
  "11313:OLetter 11329: 1132a:OLetter 11331: 11332:OLetter 11334: 11335:OLetter 1133a: 1133b:Extend 1133d:OLetter 1133e:Extend 11345: 11347:Extend 11349: 1134b:Extend 1134e: 11350:OLetter 11351: 11357:Extend 11358: 1135d:OLetter 11362:Extend 11364: 11366:Extend 1136d: 11370:Extend 11375: 11380:OLetter 1138a: 1138b:OLetter 1138c: 1138e:OLetter 1138f: 11390:OLetter 113b6: 113b7:OLetter 113b8:Extend 113c1: 113c2:Extend 113c3: 113c5:Extend 113c6: 113c7:Extend 113cb: 113cc:Extend 113d1:OLetter 113d2:Extend 113d3:OLetter 113d4:STerm 113d6: 113e1:Extend 113e3: 11400:OLetter 11435:Extend 11447:OLetter 1144b:STerm 1144d: 11450:Numeric 1145a: 1145e:Extend 1145f:OLetter 11462: 11480:OLetter 114b0:Extend 114c4:OLetter 114c6: 114c7:OLetter 114c8: 114d0:Numeric 114da: 11580:OLetter 115af:Extend 115b6: 115b8:Extend 115c1: 115c2:STerm 115c4: 115c9:STerm 115d8:OLetter 115dc:Extend 115de: 11600:OLetter 11630:Extend 11641:STerm 11643: 11644:OLetter 11645: 11650:Numeric 1165a: 11680:OLetter 116ab:Extend " ++
  "116b8:OLetter 116b9: 116c0:Numeric 116ca: 116d0:Numeric 116e4: 11700:OLetter 1171b: 1171d:Extend 1172c: 11730:Numeric 1173a: 1173c:STerm 1173f: 11740:OLetter 11747: 11800:OLetter 1182c:Extend 1183b: 118a0:Upper 118c0:Lower 118e0:Numeric 118ea: 118ff:OLetter 11907: 11909:OLetter 1190a: 1190c:OLetter 11914: 11915:OLetter 11917: 11918:OLetter 11930:Extend 11936: 11937:Extend 11939: 1193b:Extend 1193f:OLetter 11940:Extend 11941:OLetter 11942:Extend 11944:STerm 11945: 11946:STerm 11947: 11950:Numeric 1195a: 119a0:OLetter 119a8: 119aa:OLetter 119d1:Extend 119d8: 119da:Extend 119e1:OLetter 119e2: 119e3:OLetter 119e4:Extend 119e5: 11a00:OLetter 11a01:Extend 11a0b:OLetter 11a33:Extend 11a3a:OLetter 11a3b:Extend 11a3f: 11a42:STerm 11a44: 11a47:Extend 11a48: 11a50:OLetter 11a51:Extend 11a5c:OLetter 11a8a:Extend 11a9a: 11a9b:STerm 11a9d:OLetter 11a9e: 11ab0:OLetter 11af9: 11bc0:OLetter 11be1: 11bf0:Numeric 11bfa: 11c00:OLetter 11c09: 11c0a:OLetter 11c2f:Extend 11c37: 11c38:Extend 11c40:OLetter " ++
  "11c41:STerm 11c43: 11c50:Numeric 11c5a: 11c72:OLetter 11c90: 11c92:Extend 11ca8: 11ca9:Extend 11cb7: 11d00:OLetter 11d07: 11d08:OLetter 11d0a: 11d0b:OLetter 11d31:Extend 11d37: 11d3a:Extend 11d3b: 11d3c:Extend 11d3e: 11d3f:Extend 11d46:OLetter 11d47:Extend 11d48: 11d50:Numeric 11d5a: 11d60:OLetter 11d66: 11d67:OLetter 11d69: 11d6a:OLetter 11d8a:Extend 11d8f: 11d90:Extend 11d92: 11d93:Extend 11d98:OLetter 11d99: 11da0:Numeric 11daa: 11ee0:OLetter 11ef3:Extend 11ef7:STerm 11ef9: 11f00:Extend 11f02:OLetter 11f03:Extend 11f04:OLetter 11f11: 11f12:OLetter 11f34:Extend 11f3b: 11f3e:Extend 11f43:STerm 11f45: 11f50:Numeric 11f5a:Extend 11f5b: 11fb0:OLetter 11fb1: 12000:OLetter 1239a: 12400:OLetter 1246f: 12480:OLetter 12544: 12f90:OLetter 12ff1: 13000:OLetter 13430:Format 13440:Extend 13441:OLetter 13447:Extend 13456: 13460:OLetter 143fb: 14400:OLetter 14647: 16100:OLetter 1611e:Extend 16130:Numeric 1613a: 16800:OLetter 16a39: 16a40:OLetter 16a5f: 16a60:Numeric 16a6a: 16a6e:STerm 16a70:OLetter " ++
  "16abf: 16ac0:Numeric 16aca: 16ad0:OLetter 16aee: 16af0:Extend 16af5:STerm 16af6: 16b00:OLetter 16b30:Extend 16b37:STerm 16b39: 16b40:OLetter 16b44:STerm 16b45: 16b50:Numeric 16b5a: 16b63:OLetter 16b78: 16b7d:OLetter 16b90: 16d40:OLetter 16d6d: 16d6e:STerm 16d70:Numeric 16d7a: 16e40:Upper 16e60:Lower 16e80: 16e98:STerm 16e99: 16f00:OLetter 16f4b: 16f4f:Extend 16f50:OLetter 16f51:Extend 16f88: 16f8f:Extend 16f93:OLetter 16fa0: 16fe0:OLetter 16fe2: 16fe3:OLetter 16fe4:Extend 16fe5: 16ff0:Extend 16ff2: 17000:OLetter 187f8: 18800:OLetter 18cd6: 18cff:OLetter 18d09: 1aff0:OLetter 1aff4: 1aff5:OLetter 1affc: 1affd:OLetter 1afff: 1b000:OLetter 1b123: 1b132:OLetter 1b133: 1b150:OLetter 1b153: 1b155:OLetter 1b156: 1b164:OLetter 1b168: 1b170:OLetter 1b2fc: 1bc00:OLetter 1bc6b: 1bc70:OLetter 1bc7d: 1bc80:OLetter 1bc89: 1bc90:OLetter 1bc9a: 1bc9d:Extend 1bc9f:STerm 1bca0:Format 1bca4: 1ccf0:Numeric 1ccfa: 1cf00:Extend 1cf2e: 1cf30:Extend 1cf47: 1d165:Extend 1d16a: 1d16d:Extend 1d173:Format " ++
  "1d17b:Extend 1d183: 1d185:Extend 1d18c: 1d1aa:Extend 1d1ae: 1d242:Extend 1d245: 1d400:Upper 1d41a:Lower 1d434:Upper 1d44e:Lower 1d455: 1d456:Lower 1d468:Upper 1d482:Lower 1d49c:Upper 1d49d: 1d49e:Upper 1d4a0: 1d4a2:Upper 1d4a3: 1d4a5:Upper 1d4a7: 1d4a9:Upper 1d4ad: 1d4ae:Upper 1d4b6:Lower 1d4ba: 1d4bb:Lower 1d4bc: 1d4bd:Lower 1d4c4: 1d4c5:Lower 1d4d0:Upper 1d4ea:Lower 1d504:Upper 1d506: 1d507:Upper 1d50b: 1d50d:Upper 1d515: 1d516:Upper 1d51d: 1d51e:Lower 1d538:Upper 1d53a: 1d53b:Upper 1d53f: 1d540:Upper 1d545: 1d546:Upper 1d547: 1d54a:Upper 1d551: 1d552:Lower 1d56c:Upper 1d586:Lower 1d5a0:Upper 1d5ba:Lower 1d5d4:Upper 1d5ee:Lower 1d608:Upper 1d622:Lower 1d63c:Upper 1d656:Lower 1d670:Upper 1d68a:Lower 1d6a6: 1d6a8:Upper 1d6c1: 1d6c2:Lower 1d6db: 1d6dc:Lower 1d6e2:Upper 1d6fb: 1d6fc:Lower 1d715: 1d716:Lower 1d71c:Upper 1d735: 1d736:Lower 1d74f: 1d750:Lower 1d756:Upper 1d76f: 1d770:Lower 1d789: 1d78a:Lower 1d790:Upper 1d7a9: 1d7aa:Lower 1d7c3: 1d7c4:Lower 1d7ca:Upper 1d7cb:Lower 1d7cc: " ++
  "1d7ce:Numeric 1d800: 1da00:Extend 1da37: 1da3b:Extend 1da6d: 1da75:Extend 1da76: 1da84:Extend 1da85: 1da88:STerm 1da89: 1da9b:Extend 1daa0: 1daa1:Extend 1dab0: 1df00:Lower 1df0a:OLetter 1df0b:Lower 1df1f: 1df25:Lower 1df2b: 1e000:Extend 1e007: 1e008:Extend 1e019: 1e01b:Extend 1e022: 1e023:Extend 1e025: 1e026:Extend 1e02b: 1e030:Lower 1e06e: 1e08f:Extend 1e090: 1e100:OLetter 1e12d: 1e130:Extend 1e137:OLetter 1e13e: 1e140:Numeric 1e14a: 1e14e:OLetter 1e14f: 1e290:OLetter 1e2ae:Extend 1e2af: 1e2c0:OLetter 1e2ec:Extend 1e2f0:Numeric 1e2fa: 1e4d0:OLetter 1e4ec:Extend 1e4f0:Numeric 1e4fa: 1e5d0:OLetter 1e5ee:Extend 1e5f0:OLetter 1e5f1:Numeric 1e5fb: 1e7e0:OLetter 1e7e7: 1e7e8:OLetter 1e7ec: 1e7ed:OLetter 1e7ef: 1e7f0:OLetter 1e7ff: 1e800:OLetter 1e8c5: 1e8d0:Extend 1e8d7: 1e900:Upper 1e922:Lower 1e944:Extend 1e94b:OLetter 1e94c: 1e950:Numeric 1e95a: 1ee00:OLetter 1ee04: 1ee05:OLetter 1ee20: 1ee21:OLetter 1ee23: 1ee24:OLetter 1ee25: 1ee27:OLetter 1ee28: 1ee29:OLetter 1ee33: 1ee34:OLetter " ++
  "1ee38: 1ee39:OLetter 1ee3a: 1ee3b:OLetter 1ee3c: 1ee42:OLetter 1ee43: 1ee47:OLetter 1ee48: 1ee49:OLetter 1ee4a: 1ee4b:OLetter 1ee4c: 1ee4d:OLetter 1ee50: 1ee51:OLetter 1ee53: 1ee54:OLetter 1ee55: 1ee57:OLetter 1ee58: 1ee59:OLetter 1ee5a: 1ee5b:OLetter 1ee5c: 1ee5d:OLetter 1ee5e: 1ee5f:OLetter 1ee60: 1ee61:OLetter 1ee63: 1ee64:OLetter 1ee65: 1ee67:OLetter 1ee6b: 1ee6c:OLetter 1ee73: 1ee74:OLetter 1ee78: 1ee79:OLetter 1ee7d: 1ee7e:OLetter 1ee7f: 1ee80:OLetter 1ee8a: 1ee8b:OLetter 1ee9c: 1eea1:OLetter 1eea4: 1eea5:OLetter 1eeaa: 1eeab:OLetter 1eebc: 1f130:Upper 1f14a: 1f150:Upper 1f16a: 1f170:Upper 1f18a: 1f676:Close 1f679: 1fbf0:Numeric 1fbfa: 20000:OLetter 2a6e0: 2a700:OLetter 2b73a: 2b740:OLetter 2b81e: 2b820:OLetter 2cea2: 2ceb0:OLetter 2ebe1: 2ebf0:OLetter 2ee5e: 2f800:OLetter 2fa1e: 30000:OLetter 3134b: 31350:OLetter 323b0: e0001:Format e0002: e0020:Extend e0080: e0100:Extend e01f0:"

/-- The properties that text segmentation is built on. -/
inductive BreakProperty where
  | graphemeCluster | word | sentence
  deriving Repr, DecidableEq, Inhabited

namespace BreakProperty

/-- The values of a break property by long name, with their short names. -/
def valueNames : BreakProperty → List (String × List String)
  | .graphemeCluster => [
    ("Control", ["CN"]),
    ("CR", []),
    ("E_Base", ["EB"]),
    ("E_Base_GAZ", ["EBG"]),
    ("E_Modifier", ["EM"]),
    ("Extend", ["EX"]),
    ("Glue_After_Zwj", ["GAZ"]),
    ("L", []),
    ("LF", []),
    ("LV", []),
    ("LVT", []),
    ("Other", ["XX"]),
    ("Prepend", ["PP"]),
    ("Regional_Indicator", ["RI"]),
    ("SpacingMark", ["SM"]),
    ("T", []),
    ("V", []),
    ("ZWJ", [])]
  | .word => [
    ("ALetter", ["LE"]),
    ("CR", []),
    ("Double_Quote", ["DQ"]),
    ("E_Base", ["EB"]),
    ("E_Base_GAZ", ["EBG"]),
    ("E_Modifier", ["EM"]),
    ("ExtendNumLet", ["EX"]),
    ("Extend", []),
    ("Format", ["FO"]),
    ("Glue_After_Zwj", ["GAZ"]),
    ("Hebrew_Letter", ["HL"]),
    ("Katakana", ["KA"]),
    ("LF", []),
    ("MidLetter", ["ML"]),
    ("MidNum", ["MN"]),
    ("MidNumLet", ["MB"]),
    ("Newline", ["NL"]),
    ("Numeric", ["NU"]),
    ("Other", ["XX"]),
    ("Regional_Indicator", ["RI"]),
    ("Single_Quote", ["SQ"]),
    ("WSegSpace", []),
    ("ZWJ", [])]
  | .sentence => [
    ("ATerm", ["AT"]),
    ("Close", ["CL"]),
    ("CR", []),
    ("Extend", ["EX"]),
    ("Format", ["FO"]),
    ("OLetter", ["LE"]),
    ("LF", []),
    ("Lower", ["LO"]),
    ("Numeric", ["NU"]),
    ("Other", ["XX"]),
    ("SContinue", ["SC"]),
    ("Sep", ["SE"]),
    ("Sp", ["SP"]),
    ("STerm", ["ST"]),
    ("Upper", ["UP"])]

/-- The text of a break property's runs. -/
def text : BreakProperty → String
  | .graphemeCluster => graphemeClusterBreakText
  | .word => wordBreakText
  | .sentence => sentenceBreakText

/-- The runs of a break property, read. -/
def runs (p : BreakProperty) : RunMap := RunMap.ofText p.text

/-- The value of a code point, by long name; `Other` when no run names one. -/
def valueOf (p : BreakProperty) (cp : Nat) : String :=
  match p.runs.get cp with
  | "" => "Other"
  | v => v

/-- The code points that the data lists with a value, as increasing ranges:
none for `Other`. -/
def listedRanges (p : BreakProperty) (value : String) : List (Nat × Nat) :=
  if value == "Other" then [] else p.runs.rangesWhere (· == value)

end BreakProperty

end RestDispatch.Unicode
